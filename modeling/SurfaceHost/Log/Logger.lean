import SurfaceHost.Log.Record
import SurfaceHost.Number.Decimal
import SurfaceHost.Text.Basic

/-!
# Loggers

The two ways to write a record on one line, plain `key=value` text and a JSON object, and
loggers, which have a threshold and a style.
-/

namespace SurfaceHost

namespace Log

/-- The name of a number that has no digits. -/
def specialReal (x : Float) : String :=
  if x.isNaN then "NaN" else if x < 0 then "-Inf" else "+Inf"

/-! ### Plain text -/

namespace Plain

/-- Whether a piece of a message may not stand bare. -/
def needsQuotes : Text.Piece → Bool
  | .stray _ => true
  | .char c =>
    if c.toNat < 0x80 then c.toNat ≤ 0x20 || c == '=' || c == '"'
    else Text.isSpace c || !Text.isPrintable c || c == '\ufffd'

/-- A message, between quotes if it is empty or has something that may not stand bare. -/
def message (ps : List Text.Piece) : String :=
  if ps.isEmpty || ps.any needsQuotes then
    Text.quotedPieces ps
  else
    String.ofList (ps.filterMap fun | .char c => some c | .stray _ => none)

/-- Text, between quotes if it needs them. -/
def text (s : String) : String :=
  message (Text.piecesOfString s)

/-- The shortest digits; an exponent below `1e-4` and from `1e6` on. -/
def real (x : Float) : String :=
  match Dyadic.ofFloat? x with
  | none => specialReal x
  | some d =>
    let d := d.shortest .double
    if d.leading < -4 ∨ 6 ≤ d.leading then d.scientific 2 else d.positional

/-- The value of an attribute. -/
def value : Value → String
  | .text s => text s
  | .number n => toString n.toInt
  | .real x => real x
  | .choice name _ => text name
  | .message ps => message ps

/-- The level, the message and the attributes, separated by spaces. -/
def line (r : Record) : String :=
  " ".intercalate
    (("level=" ++ r.level.text) :: ("msg=" ++ text r.message)
      :: r.attributes.map fun (k, v) => text k ++ "=" ++ value v)

end Plain

/-! ### JSON -/

namespace Json

/-- A character inside a JSON string. -/
def char (c : Char) : String :=
  match c with
  | '"' => "\\\""
  | '\\' => "\\\\"
  | '\n' => "\\n"
  | '\r' => "\\r"
  | '\t' => "\\t"
  | '\u2028' => "\\u2028"
  | '\u2029' => "\\u2029"
  | c => if c.toNat < 0x20 then "\\u" ++ Text.hex 4 c.toNat else c.toString

/-- A piece of a message inside a JSON string; a stray byte becomes the replacement
character. -/
def piece : Text.Piece → String
  | .char c => char c
  | .stray _ => "\ufffd"

/-- A JSON string. -/
def message (ps : List Text.Piece) : String :=
  "\"" ++ String.join (ps.map piece) ++ "\""

/-- A JSON string. -/
def text (s : String) : String :=
  message (Text.piecesOfString s)

/-- The shortest digits; an exponent, without leading zeros, below `1e-6` and from
`1e21` on.  JSON has no infinities, so they become an error message. -/
def real (x : Float) : String :=
  match Dyadic.ofFloat? x with
  | none => text ("!ERROR:json: unsupported value: " ++ specialReal x)
  | some d =>
    let d := d.shortest .double
    if d.leading < -6 ∨ 21 ≤ d.leading then d.scientific 1 else d.positional

/-- The value of an attribute. -/
def value : Value → String
  | .text s => text s
  | .number n => toString n.toInt
  | .real x => real x
  | .choice _ code => toString code.toInt
  | .message ps => message ps

/-- One object with the level, the message and the attributes. -/
def line (r : Record) : String :=
  let fields :=
    ("level", text r.level.text) :: ("msg", text r.message)
      :: r.attributes.map fun (k, v) => (k, value v)
  "\x7b" ++ ",".intercalate (fields.map fun (k, v) => text k ++ ":" ++ v) ++ "\x7d"

end Json

/-! ### Loggers

A logger has a threshold and a style; it is described by two words of the settings.
-/

/-- The styles of log lines. -/
inductive Style where
  | text
  | json
  deriving DecidableEq, Repr

/-- Writes the records that reach its threshold. -/
structure Logger where
  threshold : Level
  style : Style

/-- Why two words do not describe a logger. -/
inductive LoggerError where
  | level (word : String) (cause : Level.ParseError)
  | format (word : String)
  deriving DecidableEq, Repr

/-- The wording of a `LoggerError`. -/
def LoggerError.message : LoggerError → String
  | .level word cause =>
    "invalid log level " ++ Text.quoted word ++ ": slog: level string " ++ Text.quoted word
      ++ ": " ++ cause.message
  | .format word => "invalid log format " ++ Text.quoted word ++ " (want text or json)"

/-- The style with a name in any case; no name means plain text. -/
def Style.named? (word : String) : Option Style :=
  match Text.lower word with
  | "" | "text" => some .text
  | "json" => some .json
  | _ => none

/-- The logger described by a level, which may be missing, and a style. -/
def Logger.ofWords (level format : String) : Except LoggerError Logger := do
  let threshold ←
    if level.isEmpty then .ok Level.info else (Level.parse level).mapError (.level level)
  match Style.named? format with
  | some style => .ok { threshold, style }
  | none => .error (.format format)

/-- The line for a record, if it reaches the threshold. -/
def Logger.line? (l : Logger) (r : Record) : Option String :=
  if r.level < l.threshold then none
  else
    match l.style with
    | .text => some (Plain.line r)
    | .json => some (Json.line r)

end Log

end SurfaceHost
