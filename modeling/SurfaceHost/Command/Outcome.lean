import SurfaceHost.Library.Open
import SurfaceHost.Log.Logger
import SurfaceHost.Script.Play
import SurfaceHost.Settings.File
import SurfaceHost.Text.Quoted

/-!
# Flags and outcomes

What a command is told by its flags, and what it leaves behind.
-/

namespace SurfaceHost

/-! ### Flags

The flags of a command line.  A flag is written with one or two dashes; its value
follows an equals sign or, unless the flag is a switch, is the next word.  The flags
end at the first word that is none, or at two dashes alone.
-/

/-- What a flag is set to. -/
inductive Flag.Kind where
  /-- It is on or off. -/
  | switch
  | text
  deriving DecidableEq, Repr

/-- A flag that a command knows. -/
structure Flag where
  name : String
  kind : Flag.Kind
  help : String

/-- Why flags cannot be read. -/
inductive FlagError where
  /-- The word has no name in it. -/
  | syntaxError (word : String)
  | unknown (name : String)
  | noValue (name : String)
  | badSwitch (name value : String)
  /-- Nothing is wrong, but the usage is asked for. -/
  | helpWanted
  deriving DecidableEq, Repr

/-- The wording of a `FlagError`; a wish for help has none. -/
def FlagError.message? : FlagError → Option String
  | .syntaxError word => some ("bad flag syntax: " ++ word)
  | .unknown name => some ("flag provided but not defined: -" ++ name)
  | .noValue name => some ("flag needs an argument: -" ++ name)
  | .badSwitch name value =>
    some ("invalid boolean value " ++ Text.quoted value ++ " for -" ++ name ++ ": parse error")
  | .helpWanted => none

namespace Flag

/-- The word that sets a switch, if it is one. -/
def switchValue? (word : String) : Option Bool :=
  if word ∈ ["1", "t", "T", "true", "TRUE", "True"] then some true
  else if word ∈ ["0", "f", "F", "false", "FALSE", "False"] then some false
  else none

/-- What a word can be where a flag may stand. -/
inductive Word where
  /-- Not a flag; the flags end before it. -/
  | other
  /-- The flags end with it. -/
  | stop
  | malformed
  | flag (name : String) (value : Option String)
  deriving DecidableEq, Repr

/-- Reads what follows the dashes. -/
def Word.ofBody : List Char → Word
  | [] | '-' :: _ | '=' :: _ => .malformed
  | c :: rest =>
    let name := String.ofList (c :: rest.takeWhile (· ≠ '='))
    match rest.dropWhile (· ≠ '=') with
    | [] => .flag name none
    | _ :: value => .flag name (some (String.ofList value))

/-- Reads a word. -/
def Word.read (word : String) : Word :=
  match word.toList with
  | ['-', '-'] => .stop
  | '-' :: '-' :: body => .ofBody body
  | '-' :: c :: body => .ofBody (c :: body)
  | _ => .other

/-- The value that a flag gets, and the words behind it. -/
def value (f : Flag) (given : Option String) (rest : List String) :
    Except FlagError (String × List String) :=
  match f.kind, given, rest with
  | .switch, none, _ => .ok ("true", rest)
  | .switch, some v, _ =>
    if (switchValue? v).isSome then .ok (v, rest) else .error (.badSwitch f.name v)
  | .text, some v, _ => .ok (v, rest)
  | .text, none, v :: rest => .ok (v, rest)
  | .text, none, [] => .error (.noValue f.name)

/-- What flags are set to, the last setting first. -/
abbrev Values := List (String × String)

theorem length_value {f : Flag} {given : Option String} {rest rest' : List String} {v : String}
    (h : f.value given rest = .ok (v, rest')) :
  rest'.length ≤ rest.length
  := by
  unfold value at h
  split at h <;> (try split at h) <;> simp_all

/-- Reads the flags at the beginning of a command line, on top of `seen`. -/
def parseFrom (flags : List Flag) (seen : Values) : List String → Except FlagError Values
  | [] => .ok seen
  | word :: rest =>
    match Word.read word with
    | .other | .stop => .ok seen
    | .malformed => .error (.syntaxError word)
    | .flag name given =>
      match flags.find? (·.name = name) with
      | none => .error (if name = "help" ∨ name = "h" then .helpWanted else .unknown name)
      | some f =>
        match _h : f.value given rest with
        | .error e => .error e
        | .ok (v, rest') => parseFrom flags ((name, v) :: seen) rest'
termination_by words => words.length
decreasing_by
  have := length_value _h
  simp only [List.length_cons]
  omega

/-- Reads the flags at the beginning of a command line. -/
def parse (flags : List Flag) (words : List String) : Except FlagError Values :=
  parseFrom flags [] words

/-- The text that a flag is set to; empty if it is not. -/
def Values.text (vs : Values) (name : String) : String :=
  (vs.lookup name).getD ""

/-- Whether a switch is on. -/
def Values.isOn (vs : Values) (name : String) : Bool :=
  ((vs.lookup name).bind switchValue?).getD false

/-- The usage of a command, with its flags in the order of their names. -/
def usage (command : String) (flags : List Flag) : String :=
  "Usage of " ++ command ++ ":\n"
    ++ String.join
      (flags.map fun f =>
        "  -" ++ f.name ++ (match f.kind with | .switch => "" | .text => " string") ++ "\n    \t"
          ++ f.help ++ "\n")

end Flag

namespace Command

/-! ### Outcomes

What a command leaves behind: text for the two output streams and, if it failed, the
cause of the failure.
-/

/-- Why a command fails. -/
inductive Failure where
  /-- There is no command. -/
  | noCommand
  | unknownCommand (name : String)
  /-- The flags cannot be read; the usage tells how they are written. -/
  | flags (e : FlagError) (usage : String)
  | settings (e : Settings.LoadError)
  | settingsExist
  | save (e : Settings.SaveError)
  | logger (e : Log.LoggerError)
  | noScript
  | script (e : Script.LoadError)
  | library (e : Library.OpenError)
  | engine (e : Library.EngineError)
  /-- The library lacks something required. -/
  | incomplete
  | stopped (reason : Script.StopReason)

/-- The wording of a play that was stopped; a cancelled one is nothing to talk about. -/
def stopMessage? : Script.StopReason → Option String
  | .cancelled => none
  | .deadline => some "context deadline exceeded"
  | .loopTaken => some Surface.StartError.alreadyRunning.message

/-- The wording of a `Failure`. -/
def Failure.message : Failure → String
  | .noCommand => ""
  | .unknownCommand name => "Unknown command: " ++ name
  | .flags e _ => e.message?.getD ""
  | .settings e => e.message
  | .settingsExist => Settings.fileName ++ " already exists (use --force to overwrite)"
  | .save e => e.message
  | .logger e => e.message
  | .noScript => "--script is required"
  | .script e => e.message
  | .library e => e.message
  | .engine e => e.message
  | .incomplete => "engine library is missing required entry points"
  | .stopped reason => (stopMessage? reason).getD ""

/-- What a failure leaves on the error stream. -/
def Failure.report : Failure → String
  | .noCommand => ""
  | f@(.unknownCommand _) => f.message ++ "\n\n"
  | .flags e usage =>
    match e.message? with
    | some message => message ++ "\n" ++ usage
    | none => usage
  | f => "Error: " ++ f.message ++ "\n"

/-- The exit code of a failure. -/
def Failure.exitCode : Failure → UInt8
  | .flags .helpWanted _ => 0
  | .flags _ _ => 2
  | _ => 1

/-- What a command leaves behind. -/
structure Outcome where
  stdout : String := ""
  /-- The lines of the log, which go to the error stream. -/
  log : List String := []
  failure : Option Failure := none

namespace Outcome

/-- A command that only failed. -/
def failed (f : Failure) : Outcome where
  failure := some f

/-- What is on the error stream. -/
def stderr (o : Outcome) : String :=
  String.join (o.log.map (· ++ "\n")) ++ (o.failure.map Failure.report).getD ""

def exitCode (o : Outcome) : UInt8 :=
  (o.failure.map Failure.exitCode).getD 0

end Outcome

end Command

end SurfaceHost
