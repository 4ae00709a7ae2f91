import SurfaceHost.Toml.Token

/-!
# Reading documents

Values, statements and whole documents.  Arrays and inline tables nest, so their
readers carry a bound, which the length of the text gives: to read a bracket, a brace
or an item lowers it by at most three, and four times the length is where it starts.
-/

namespace SurfaceHost

namespace Toml

/-- The text after blanks, comments and line ends. -/
def skipSpace? (inComment : Bool) : List Char → Option (List Char)
  | [] => some []
  | '\n' :: rest | '\r' :: '\n' :: rest => skipSpace? false rest
  | c :: rest =>
    if inComment then if isPlain c then skipSpace? true rest else none
    else if c == '#' then skipSpace? true rest
    else if isBlank c then skipSpace? false rest
    else if c == '\r' then none
    else some (c :: rest)

mutual

/-- A value of any kind. -/
def value? : Nat → List Char → Option (Value × List Char)
  | 0, _ => none
  | fuel + 1, cs =>
    match cs with
    | [] => none
    | '"' :: _ | '\'' :: _ => (string? fuel cs).map fun (s, rest) => (.text s, rest)
    | 't' :: _ => if startsWith "true" cs then some (.boolean true, cs.drop 4) else none
    | 'f' :: _ => if startsWith "false" cs then some (.boolean false, cs.drop 5) else none
    | '[' :: rest => (items? fuel true rest).map fun (items, rest) => (.array items, rest)
    | '{' :: rest => (entries? fuel true rest).map fun (entries, rest) => (.table entries, rest)
    | _ => numberOrDate? cs

/-- The rest of an array, up to its bracket.  A comma stands between two items and may
stand behind the last. -/
def items? : Nat → (first : Bool) → List Char → Option (List Value × List Char)
  | 0, _, _ => none
  | fuel + 1, first, cs => do
    match ← skipSpace? false cs with
    | ']' :: rest => some ([], rest)
    | ',' :: rest =>
      if first then none
      match ← skipSpace? false rest with
      | ']' :: rest => some ([], rest)
      | rest => itemThen? fuel rest
    | rest => if first then itemThen? fuel rest else none

/-- An item of an array and the rest of the array. -/
def itemThen? : Nat → List Char → Option (List Value × List Char)
  | 0, _ => none
  | fuel + 1, cs => do
    let (item, rest) ← value? fuel cs
    let (items, rest) ← items? fuel false rest
    some (item :: items, rest)

/-- The rest of an inline table, up to its brace.  It stands on one line, and a comma
stands between two entries. -/
def entries? : Nat → (first : Bool) → List Char → Option (List (Key × Value) × List Char)
  | 0, _, _ => none
  | fuel + 1, first, cs => do
    match skipBlanks cs with
    | '}' :: rest => some ([], rest)
    | cs =>
      let cs ←
        if first then some cs
        else
          match cs with
          | ',' :: rest => some (skipBlanks rest)
          | _ => none
      let (entry, rest) ← assignment? fuel cs
      let (entries, rest) ← entries? fuel false rest
      some (entry :: entries, rest)

/-- A key and its value. -/
def assignment? : Nat → List Char → Option ((Key × Value) × List Char)
  | 0, _ => none
  | fuel + 1, cs => do
    let (key, rest) ← key? fuel cs
    match skipBlanks rest with
    | '=' :: rest =>
      let (value, rest) ← value? fuel (skipBlanks rest)
      some ((key, value), rest)
    | _ => none

end

/-- The key of a table heading and the text after the key. -/
def headingKey? (fuel : Nat) (cs : List Char) : Option (Key × List Char) := do
  let (key, rest) ← key? fuel (skipBlanks cs)
  some (key, skipBlanks rest)

/-- A statement.  The first argument bounds the number of characters and values. -/
def statement? (fuel : Nat) (cs : List Char) : Option (Statement × List Char) :=
  match cs with
  | '[' :: '[' :: rest =>
    match headingKey? fuel rest with
    | some (key, ']' :: ']' :: rest) => some (.arrayTable key, rest)
    | _ => none
  | '[' :: rest =>
    match headingKey? fuel rest with
    | some (key, ']' :: rest) => some (.table key, rest)
    | _ => none
  | _ => (assignment? fuel cs).map fun ((key, value), rest) => (.assign key value, rest)

/-- The text from the end of a line on, after blanks and a comment. -/
def finishLine? (cs : List Char) : Option (List Char) :=
  match skipBlanks cs with
  | '#' :: rest => skipComment? rest
  | cs => some cs

/-- The statements of a document, one on a line.  The second argument bounds the number
of lines, and the first bounds the parts of every statement. -/
def statements? (fuel : Nat) : Nat → List Char → Option (List Statement)
  | 0, _ => none
  | lines + 1, cs =>
    match skipBlanks cs with
    | [] => some []
    | '#' :: rest => do
      match ← skipComment? rest with
      | [] => some []
      | rest => statements? fuel lines (← lineEnd? rest)
    | cs@('\n' :: _) | cs@('\r' :: _) => do statements? fuel lines (← lineEnd? cs)
    | cs => do
      let (s, rest) ← statement? fuel cs
      match ← finishLine? rest with
      | [] => some [s]
      | rest => (s :: ·) <$> statements? fuel lines (← lineEnd? rest)

/-- Reads a document. -/
def read? (text : String) : Option (List Statement) :=
  let cs := text.toList
  statements? (4 * cs.length + 8) (cs.length + 1) cs

end Toml

end SurfaceHost
