import SurfaceHost.Number.Decimal
import SurfaceHost.Text.Basic
import SurfaceHost.Toml.Document
import SurfaceHost.Toml.Number

/-!
# Shapes

A shape says what a document is to be read into: records with named fields, lists of
records, texts, integers and reals.  Reading fills in a `Datum` of that shape; what
the document does not mention stays as it was, and what the shape does not know is
passed over without a look at it.
-/

namespace SurfaceHost

namespace Toml

/-- What is to be read. -/
inductive Shape where
  | text
  | integer
  | real
  | record (fields : List (String × Shape))
  | list (fields : List (String × Shape))

/-- What has been read. -/
inductive Datum where
  | text (s : String)
  | integer (i : Int64)
  | real (x : Float32)
  | record (fields : List (String × Datum))
  | list (items : List Datum)

namespace Datum

/-- A field of a record. -/
def field? : Datum → String → Option Datum
  | record fields, name => fields.lookup name
  | _, _ => none

/-- The datum that a path of fields leads to. -/
def at? : Datum → List String → Option Datum
  | d, [] => some d
  | d, name :: rest => do (← d.field? name).at? rest

/-- Replaces a field of a record. -/
def setField : Datum → String → Datum → Datum
  | record fields, name, d => record (fields.map fun (n, e) => if n = name then (n, d) else (n, e))
  | d, _, _ => d

/-- The text at a path; empty if there is none. -/
def textAt (d : Datum) (path : List String) : String :=
  match d.at? path with
  | some (text s) => s
  | _ => ""

/-- The integer at a path; zero if there is none. -/
def integerAt (d : Datum) (path : List String) : Int64 :=
  match d.at? path with
  | some (integer i) => i
  | _ => 0

/-- The real at a path; zero if there is none. -/
def realAt (d : Datum) (path : List String) : Float32 :=
  match d.at? path with
  | some (real x) => x
  | _ => 0

/-- The items of the list at a path. -/
def itemsAt (d : Datum) (path : List String) : List Datum :=
  match d.at? path with
  | some (list items) => items
  | _ => []

end Datum

mutual

/-- The datum of a shape in which nothing has been read. -/
def Shape.blank : Shape → Datum
  | .text => .text ""
  | .integer => .integer 0
  | .real => .real 0
  | .record fields => .record (blankFields fields)
  | .list _ => .list []

/-- The fields of a record in which nothing has been read. -/
def blankFields : List (String × Shape) → List (String × Datum)
  | [] => []
  | (name, s) :: rest => (name, s.blank) :: blankFields rest

end

/-- The field that a name in a document means: the one with that name, in any case. -/
def findField? (fields : List (String × Shape)) (name : String) : Option (String × Shape) :=
  fields.find? fun (n, _) => n = name ∨ n = Text.lower name

mutual

/-- Stores a value. -/
def Shape.store? (s : Shape) (d : Datum) : Value → Option Datum
  | .text t => match s with | .text => some (.text t) | _ => none
  | .integer source =>
    match s with
    | .integer => .integer <$> integer? source
    | .real => .real <$> single? source
    | _ => none
  | .real source => match s with | .real => .real <$> single? source | _ => none
  | .boolean _ | .date _ => none
  | .array items => match s with | .list fields => .list <$> storeItems? fields items | _ => none
  | .table entries =>
    match s with
    | .record fields => storeEntries? (.record fields) d entries
    | _ => none
termination_by v => (sizeOf v, 0)

/-- Stores the items of an array. -/
def storeItems? (fields : List (String × Shape)) : List Value → Option (List Datum)
  | [] => some []
  | v :: rest => do
    let d ← Shape.store? (.record fields) (.record (blankFields fields)) v
    (d :: ·) <$> storeItems? fields rest
termination_by vs => (sizeOf vs, 0)

/-- Stores the entries of an inline table. -/
def storeEntries? (s : Shape) (d : Datum) : List (Key × Value) → Option Datum
  | [] => some d
  | (key, v) :: rest => do
    let d ← s.storeAt? d v key
    storeEntries? s d rest
termination_by es => (sizeOf es, 0)

/-- Stores a value where a key leads to.  A key that leads nowhere is passed over, and
one that leads beyond a value is an error. -/
def Shape.storeAt? (s : Shape) (d : Datum) (v : Value) : Key → Option Datum
  | [] => s.store? d v
  | name :: rest =>
    match s with
    | .record fields =>
      match findField? fields name with
      | some (field, s) => do
        let e ← s.storeAt? ((d.field? field).getD s.blank) v rest
        some (d.setField field e)
      | none => some d
    | _ => none
termination_by key => (sizeOf v, key.length + 1)

end

/-! ### Whole documents -/

/-- The statements below a heading. -/
abbrev Body := List (Key × Value)

/-- Splits the statements of a document at the headings. -/
def sections : List Statement → Body × List (Statement × Body)
  | [] => ([], [])
  | .assign key v :: rest =>
    let (body, others) := sections rest
    ((key, v) :: body, others)
  | heading :: rest =>
    let (body, others) := sections rest
    ([], (heading, body) :: others)

/-- What a heading leads to. -/
inductive Target where
  /-- Something that the shape does not know. -/
  | unknown
  | changed (d : Datum)

/-- Changes the last item of a list. -/
def changeLast? (items : List Datum) (f : Datum → Option Target) : Option Target := do
  let last ← items.getLast?
  match ← f last with
  | .changed e => some (.changed (.list (items.dropLast ++ [e])))
  | .unknown => some .unknown

/-- Stores a body in the table that a heading leads to; a list stands for its last
item. -/
def Shape.storeTable? (s : Shape) (d : Datum) (body : Body) (key : Key) : Option Target :=
  match s, d with
  | .list fields, .list items =>
    changeLast? items fun e =>
      match key with
      | [] => .changed <$> storeEntries? (.record fields) e body
      | name :: rest => storeField? fields e name rest
  | .list _, _ => none
  | _, _ =>
    match key with
    | [] => .changed <$> storeEntries? s d body
    | name :: rest =>
      match s with
      | .record fields => storeField? fields d name rest
      | _ => none
termination_by (key.length, 0)
where
  /-- Goes on below a field. -/
  storeField? (fields : List (String × Shape)) (d : Datum) (name : String) (rest : Key) :
      Option Target :=
    match findField? fields name with
    | none => some .unknown
    | some (field, s) => do
      match ← s.storeTable? ((d.field? field).getD s.blank) body rest with
      | .changed e => some (.changed (d.setField field e))
      | .unknown => some .unknown
  termination_by (rest.length, 1)

/-- Stores a body in a new item of the list that a heading leads to.  If it is the
`first` one, what was in the list before goes. -/
def Shape.storeItem? (s : Shape) (d : Datum) (first : Bool) (body : Body) : Key → Option Target
  | [] => none
  | name :: rest =>
    match s with
    | .record fields =>
      match findField? fields name with
      | none => some .unknown
      | some (field, s) => do
        let e := (d.field? field).getD s.blank
        let change : Option Target :=
          match rest, s, e with
          | [], .list fields, .list items => do
            let item ← storeEntries? (.record fields) (.record (blankFields fields)) body
            some (.changed (.list (if first then [item] else items ++ [item])))
          | [], _, _ => none
          | _ :: _, .list fields, .list items =>
            changeLast? items fun e => Shape.storeItem? (.record fields) e first body rest
          | _ :: _, s, e => s.storeItem? e first body rest
        match ← change with
        | .changed e => some (.changed (d.setField field e))
        | .unknown => some .unknown
    | _ => none

/-- Uses the keys of a body in the table that `table` leads to. -/
def useKeys? (p : Place) (table : Key) : Body → Option Place
  | [] => some p
  | (key, v) :: rest => do
    let p ← p.assignAt? key table
    if v.keysDistinct then useKeys? p table rest else none

/-- Reads the parts of a document below headings.  What is below an unknown heading is
not looked at, not even for keys used twice.  A heading of an array starts it anew if
the array has had no heading in these very letters. -/
def Shape.readSections? (s : Shape) (d : Datum) (p : Place) (current : Key) :
    List (Statement × Body) → Option Datum
  | [] => some d
  | (heading, body) :: rest => do
    let p := p.modify Place.fixBelow current
    let (key, p, target) ←
      match heading with
      | .table key => do some (key, ← p.openTable? key, ← s.storeTable? d body key)
      | .arrayTable key => do
        some (key, ← p.openArrayTable? key, ← s.storeItem? d (!p.knows key) body key)
      | .assign _ _ => none
    match target with
    | .unknown => s.readSections? d p key rest
    | .changed d => do
      let p ← useKeys? p key body
      s.readSections? d p key rest

/-- Reads a document into a datum. -/
def Shape.read? (s : Shape) (d : Datum) (statements : List Statement) : Option Datum := do
  let (body, others) := sections statements
  let p ← useKeys? .root [] body
  let d ← storeEntries? s d body
  s.readSections? d p [] others

/-! ### Writing

Records are written as tables with one line for each field.
-/

/-- A character between double quotes. -/
def writtenChar (c : Char) : String :=
  match c with
  | '"' => "\\\""
  | '\\' => "\\\\"
  | '\x08' => "\\b"
  | '\x0c' => "\\f"
  | '\n' => "\\n"
  | '\r' => "\\r"
  | '\t' => "\\t"
  | c =>
    if c.toNat < 0x20 ∨ c.toNat = 0x7f then "\\u" ++ (Text.hex 4 c.toNat).toUpper
    else c.toString

/-- Whether a character may stand between single quotes. -/
def isLiteralChar (c : Char) : Bool :=
  isPlain c && c ≠ '\''

/-- A text: between single quotes if it can be, else between double quotes. -/
def writtenText (s : String) : String :=
  if s.toList.all isLiteralChar then "'" ++ s ++ "'"
  else "\"" ++ String.join (s.toList.map writtenChar) ++ "\""

/-- A real number without an exponent: a whole number with all its digits and one
place, any other with the fewest digits that read back. -/
def writtenReal (x : Float32) : String :=
  match Dyadic.ofFloat32? x with
  | none => if x.isNaN then "nan" else if x < 0 then "-inf" else "inf"
  | some d =>
    if d.isWhole then
      (if d.negative then "-" else "") ++ toString d.floorMagnitude ++ ".0"
    else
      (d.shortest .single).positional

/-- A field that is not a record. -/
def writtenField (name : String) : Datum → String
  | .text s => name ++ " = " ++ writtenText s ++ "\n"
  | .integer i => name ++ " = " ++ toString i.toInt ++ "\n"
  | .real x => name ++ " = " ++ writtenReal x ++ "\n"
  | .record _ | .list _ => ""

/-- A record of records: a table for each, with an empty line between two. -/
def written : Datum → String
  | .record fields =>
    "\n".intercalate <| fields.map fun (name, d) =>
      match d with
      | .record fields =>
        "[" ++ name ++ "]\n" ++ String.join (fields.map fun (n, d) => writtenField n d)
      | d => writtenField name d
  | _ => ""

end Toml

end SurfaceHost
