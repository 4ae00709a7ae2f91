import SurfaceHost.Number.Word
import SurfaceHost.Text.Basic
import SurfaceHost.Text.Quoted

/-!
# Log records

A record is a message with a level and attributes.
-/

namespace SurfaceHost

namespace Log

/-! ### Levels

Levels are numbers; four of them have names, and the others are written as the
highest named level that is not above them and a distance.
-/

/-- How important a record is. -/
abbrev Level := Int64

namespace Level

def debug : Level := -4
def info : Level := 0
def warn : Level := 4
def error : Level := 8

/-- The named levels. -/
def named? (name : String) : Option Level :=
  match Text.upper name with
  | "DEBUG" => some debug
  | "INFO" => some info
  | "WARN" => some warn
  | "ERROR" => some error
  | _ => none

/-- A name and a signed distance, which is not written when it is zero. -/
def text (l : Level) : String :=
  let from_ (name : String) (base : Level) : String :=
    let distance := (l - base).toInt
    if distance = 0 then name
    else if 0 < distance then name ++ "+" ++ toString distance
    else name ++ toString distance
  if l < info then from_ "DEBUG" debug
  else if l < warn then from_ "INFO" info
  else if l < error then from_ "WARN" warn
  else from_ "ERROR" error

/-- Why a text does not name a level. -/
inductive ParseError where
  /-- What follows the name is not a distance. -/
  | distance (text : String) (cause : NumeralError)
  | unknownName
  deriving DecidableEq, Repr

/-- The wording of a `ParseError`. -/
def ParseError.message : ParseError → String
  | .distance text cause =>
    "strconv.Atoi: parsing " ++ Text.quoted text ++ ": " ++ cause.message
  | .unknownName => "unknown name"

/-- Reads a level: a name in any case, and from the first sign on a distance.  The
distance is looked at before the name. -/
def parse (s : String) : Except ParseError Level :=
  let isSign (c : Char) : Bool := c == '+' || c == '-'
  let name := s.toList.takeWhile (!isSign ·)
  let rest := s.toList.dropWhile (!isSign ·)
  let distance : Except ParseError Int64 :=
    if rest.isEmpty then .ok 0
    else (Numeral.word rest).mapError (.distance (String.ofList rest))
  match distance with
  | .error e => .error e
  | .ok d =>
    match named? (String.ofList name) with
    | some base => .ok (base + d)
    | none => .error .unknownName

end Level

/-! ### Records -/

/-- What a record can tell about something. -/
inductive Value where
  | text (s : String)
  | number (n : Int64)
  | real (x : Float)
  /-- One of several named choices: plain text shows the name, JSON the code. -/
  | choice (name : String) (code : Int64)
  /-- A message that may hold stray bytes. -/
  | message (pieces : List Text.Piece)

/-- A message with its level and its attributes, in order. -/
structure Record where
  level : Level
  message : String
  attributes : List (String × Value) := []

namespace Record

def debug (message : String) (attributes : List (String × Value) := []) : Record :=
  { level := Level.debug, message, attributes }

def info (message : String) (attributes : List (String × Value) := []) : Record :=
  { level := Level.info, message, attributes }

def warn (message : String) (attributes : List (String × Value) := []) : Record :=
  { level := Level.warn, message, attributes }

def error (message : String) (attributes : List (String × Value) := []) : Record :=
  { level := Level.error, message, attributes }

end Record

end Log

end SurfaceHost
