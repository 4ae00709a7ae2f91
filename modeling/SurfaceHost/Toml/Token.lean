import SurfaceHost.Text.Basic
import SurfaceHost.Toml.Document

/-!
# Tokens

The parts of a document that have no parts themselves: blanks and comments, strings,
numbers and dates.  Each reader takes characters from the front and gives back the
rest, or nothing where the text is malformed.
-/

namespace SurfaceHost

namespace Toml

/-- Whether a character separates tokens on a line. -/
def isBlank (c : Char) : Bool :=
  c == ' ' || c == '\t'

/-- Whether a character may stand in a comment or a string: no control character but
the tab. -/
def isPlain (c : Char) : Bool :=
  c == '\t' || (0x20 ≤ c.toNat && c.toNat ≠ 0x7f)

/-- The text after blanks. -/
def skipBlanks (cs : List Char) : List Char :=
  cs.dropWhile isBlank

/-- The text after the end of a line. -/
def lineEnd? : List Char → Option (List Char)
  | '\n' :: rest | '\r' :: '\n' :: rest => some rest
  | _ => none

/-- The text from the end of a line on, after a comment. -/
def skipComment? : List Char → Option (List Char)
  | [] => some []
  | '\n' :: rest => some ('\n' :: rest)
  | '\r' :: '\n' :: rest => some ('\r' :: '\n' :: rest)
  | c :: rest => if isPlain c then skipComment? rest else none

/-! ### Strings -/

/-- What a letter after a backslash stands for. -/
def simpleEscape? : Char → Option Char
  | '"' => some '"'
  | '\\' => some '\\'
  | 'b' => some '\x08'
  | 'e' => some '\x1b'
  | 'f' => some '\x0c'
  | 'n' => some '\n'
  | 'r' => some '\r'
  | 't' => some '\t'
  | _ => none

/-- The character with a hexadecimal code of exactly `width` digits, if there is one. -/
def codedChar? (width : Nat) (cs : List Char) : Option (Char × List Char) := do
  let digits := cs.take width
  if digits.length < width then none
  let code ← digits.foldlM (fun n c => (Text.hexDigit? c).map (n * 16 + ·)) 0
  if h : code.isValidChar then some (Char.ofNatAux code h, cs.drop width) else none

/-- The character after a backslash, with the text that follows. -/
def escape? : List Char → Option (Char × List Char)
  | 'u' :: rest => codedChar? 4 rest
  | 'U' :: rest => codedChar? 8 rest
  | c :: rest => (simpleEscape? c).map (·, rest)
  | [] => none

/-- The rest of a string between single quotes on one line. -/
def literal? (read : List Char) : List Char → Option (String × List Char)
  | [] => none
  | '\'' :: rest => some (String.ofList read.reverse, rest)
  | c :: rest => if isPlain c then literal? (c :: read) rest else none

/-- The rest of a string between double quotes on one line.  The first argument bounds
the number of characters. -/
def basic? : Nat → (read : List Char) → List Char → Option (String × List Char)
  | 0, _, _ | _, _, [] => none
  | _, read, '"' :: rest => some (String.ofList read.reverse, rest)
  | fuel + 1, read, '\\' :: rest => do
    let (c, rest) ← escape? rest
    basic? fuel (c :: read) rest
  | fuel + 1, read, c :: rest => if isPlain c then basic? fuel (c :: read) rest else none

/-- The end of a string over several lines, which is three quotes, with up to two more
before it that belong to the string; nothing else that starts with three quotes. -/
def closing? (quote : Char) (cs : List Char) : Option (Option (List Char × List Char)) :=
  let run := (cs.takeWhile (· == quote)).length
  if run < 3 then some none
  else if run ≤ 5 then some (some (List.replicate (run - 3) quote, cs.drop run))
  else none

/-- The text after a line end that directly follows the opening quotes. -/
def skipFirstLineEnd (cs : List Char) : List Char :=
  (lineEnd? cs).getD cs

/-- The rest of a string between triple single quotes. -/
def multilineLiteral? : Nat → (read : List Char) → List Char → Option (String × List Char)
  | 0, _, _ | _, _, [] => none
  | fuel + 1, read, c :: rest =>
    match closing? '\'' (c :: rest) with
    | none => none
    | some (some (more, rest)) => some (String.ofList (read.reverse ++ more), rest)
    | some none =>
      match c, rest with
      | '\r', '\n' :: rest => multilineLiteral? fuel ('\n' :: '\r' :: read) rest
      | '\n', rest => multilineLiteral? fuel ('\n' :: read) rest
      | c, rest => if isPlain c then multilineLiteral? fuel (c :: read) rest else none

/-- The text after blanks and line ends.  A carriage return alone is neither. -/
def skipBlankLines : List Char → List Char
  | '\r' :: '\n' :: rest => skipBlankLines rest
  | c :: rest => if isBlank c || c == '\n' then skipBlankLines rest else c :: rest
  | [] => []

/-- The text after the line ends and blanks that a backslash at the end of a line takes
with it, if the backslash before `cs` is one. -/
def lineContinuation? (cs : List Char) : Option (List Char) :=
  (lineEnd? (skipBlanks cs)).map skipBlankLines

/-- The rest of a string between triple double quotes. -/
def multilineBasic? : Nat → (read : List Char) → List Char → Option (String × List Char)
  | 0, _, _ | _, _, [] => none
  | fuel + 1, read, '\\' :: rest =>
    match lineContinuation? rest with
    | some rest => multilineBasic? fuel read rest
    | none =>
      match escape? rest with
      | some (c, rest) => multilineBasic? fuel (c :: read) rest
      | none => none
  | fuel + 1, read, c :: rest =>
    match closing? '"' (c :: rest) with
    | none => none
    | some (some (more, rest)) => some (String.ofList (read.reverse ++ more), rest)
    | some none =>
      match c, rest with
      | '\r', '\n' :: rest => multilineBasic? fuel ('\n' :: '\r' :: read) rest
      | '\n', rest => multilineBasic? fuel ('\n' :: read) rest
      | c, rest => if isPlain c then multilineBasic? fuel (c :: read) rest else none

/-- A string of any of the four kinds.  The first argument bounds the number of
characters. -/
def string? (fuel : Nat) : List Char → Option (String × List Char)
  | '"' :: '"' :: '"' :: rest => multilineBasic? fuel [] (skipFirstLineEnd rest)
  | '\'' :: '\'' :: '\'' :: rest => multilineLiteral? fuel [] (skipFirstLineEnd rest)
  | '"' :: rest => basic? fuel [] rest
  | '\'' :: rest => literal? [] rest
  | _ => none

/-! ### Keys -/

/-- Whether a character may stand in a key without quotes. -/
def isKeyChar (c : Char) : Bool :=
  ('a' ≤ c && c ≤ 'z') || ('A' ≤ c && c ≤ 'Z') || c.isDigit || c == '-' || c == '_'

/-- One name of a key.  The first argument bounds the number of characters. -/
def name? (fuel : Nat) : List Char → Option (String × List Char)
  | '"' :: rest => basic? fuel [] rest
  | '\'' :: rest => literal? [] rest
  | cs =>
    let name := cs.takeWhile isKeyChar
    if name.isEmpty then none else some (String.ofList name, cs.dropWhile isKeyChar)

/-- The names of a key, with dots between them, and the text after blanks.  The first
argument bounds the number of names and of their characters. -/
def key? : Nat → List Char → Option (Key × List Char)
  | 0, _ => none
  | fuel + 1, cs => do
    let (name, rest) ← name? fuel cs
    match skipBlanks rest with
    | '.' :: rest =>
      let (names, rest) ← key? fuel (skipBlanks rest)
      some (name :: names, rest)
    | rest => some ([name], rest)

/-! ### Numbers and dates -/

/-- Whether `cs` starts with `front`. -/
def startsWith (front : String) (cs : List Char) : Bool :=
  front.toList.isPrefixOf cs

/-- Whether a character may stand in a number of the base marked by `mark`. -/
def isBaseDigit (mark c : Char) : Bool :=
  c == '_' ||
    match mark with
    | 'x' => (Text.hexDigit? c).isSome
    | 'o' => '0' ≤ c && c ≤ '7'
    | _ => c == '0' || c == '1'

/-- A number without a marked base: a run of digits, signs, points, underscores and
exponent marks, or one that ends in `inf` or `nan`.  `seen` has the characters read
so far, last first. -/
def decimal? (seen : List Char) (isReal : Bool) : List Char → Option (Value × List Char)
  | c :: rest =>
    if c.isDigit || c == '+' || c == '-' || c == '_' then decimal? (c :: seen) isReal rest
    else if c == '.' || c == 'e' || c == 'E' then decimal? (c :: seen) true rest
    else if c == 'i' || c == 'n' then
      let word := if c == 'i' then "inf" else "nan"
      if startsWith word (c :: rest) then
        some (.real (seen.reverse ++ word.toList), rest.drop 2)
      else
        none
    else finish (c :: rest)
  | [] => finish []
where
  /-- The number that has been read, if it is not empty. -/
  finish (rest : List Char) : Option (Value × List Char) :=
    if seen.isEmpty then none
    else some (if isReal then .real seen.reverse else .integer seen.reverse, rest)

/-- A number.  After a leading zero only a base mark, a point or an exponent goes on. -/
def number? (cs : List Char) : Option (Value × List Char) :=
  match cs with
  | '0' :: c :: d :: rest =>
    if c == 'x' || c == 'o' || c == 'b' then
      let digits := (d :: rest).takeWhile (isBaseDigit c)
      some (.integer ('0' :: c :: digits), (d :: rest).dropWhile (isBaseDigit c))
    else if c == '.' || c == 'e' || c == 'E' then decimal? [] false cs
    else some (.integer ['0'], c :: d :: rest)
  | _ => decimal? [] false cs

/-- A date or a time: a run of digits and of the marks used in them, with at most one
space, which a digit and any other ASCII character must follow.  What it says is not
looked at. -/
def spanDate (read : List Char) (spaced : Bool) : List Char → List Char × List Char
  | ' ' :: c :: rest =>
    if !spaced && c.isDigit then
      match rest with
      | d :: rest =>
        if d.toNat < 0x80 then spanDate (d :: c :: ' ' :: read) true rest
        else ((c :: ' ' :: read).reverse, d :: rest)
      | [] => ((c :: ' ' :: read).reverse, [])
    else (read.reverse, ' ' :: c :: rest)
  | c :: rest =>
    if c.isDigit || c ∈ ['-', 'T', 't', ':', '.', '+', 'Z', 'z'] then
      spanDate (c :: read) spaced rest
    else (read.reverse, c :: rest)
  | [] => (read.reverse, [])

/-- Whether a text that starts like a number goes on like a date or a time. -/
def looksLikeDate (cs : List Char) : Bool :=
  match cs with
  | a :: b :: ':' :: _ => a.isDigit && b.isDigit
  | a :: b :: c :: d :: '-' :: _ => a.isDigit && b.isDigit && c.isDigit && d.isDigit
  | _ => false

/-- A number, a date or a time. -/
def numberOrDate? (cs : List Char) : Option (Value × List Char) :=
  if looksLikeDate cs then
    let (source, rest) := spanDate [] false cs
    some (.date source, rest)
  else if startsWith "inf" cs || startsWith "nan" cs then
    some (.real (cs.take 3), cs.drop 3)
  else if startsWith "i" cs || startsWith "n" cs then
    none
  else
    number? cs

end Toml

end SurfaceHost
