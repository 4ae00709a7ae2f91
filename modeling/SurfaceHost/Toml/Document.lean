/-!
# Documents

A TOML document as a list of statements, and the rule that it says everything only once.
-/

namespace SurfaceHost

namespace Toml

/-! ### Statements

A TOML document as a list of statements.  Numbers and dates are kept as they are
written, since what they mean depends on where they are used.
-/

/-- The names of a dotted key. -/
abbrev Key := List String

/-- A value as it is written. -/
inductive Value where
  | text (s : String)
  | integer (source : List Char)
  | real (source : List Char)
  | boolean (b : Bool)
  | date (source : List Char)
  | array (items : List Value)
  | table (entries : List (Key × Value))

/-- One line of a document that says something. -/
inductive Statement where
  | assign (key : Key) (value : Value)
  | table (key : Key)
  | arrayTable (key : Key)

/-! ### Keys in use

A document may say everything only once.  `Place` remembers what has been said: which
names are in use below a place, whether they are values, tables or arrays of tables,
and whether a table may still be added to.
-/

/-- What a name is in use for. -/
inductive Use where
  | value
  | table
  | arrayTable
  deriving DecidableEq, Repr

/-- A name in use. -/
inductive Place where
  /-- A `fixed` table has a heading of its own, and a `dotted` one comes from a dotted key
  of the table that is being read. -/
  | mk (use : Use) (fixed dotted : Bool) (children : List (String × Place))

namespace Place

def use : Place → Use
  | mk u _ _ _ => u

def isFixed : Place → Bool
  | mk _ f _ _ => f

def children : Place → List (String × Place)
  | mk _ _ _ b => b

/-- A table that nothing has been said about. -/
def root : Place := mk .table false false []

def withChildren : Place → List (String × Place) → Place
  | mk u f d _, b => mk u f d b

/-- The place below with a name. -/
def get? (p : Place) (name : String) : Option Place :=
  p.children.lookup name

/-- Puts a place below. -/
def put (p : Place) (name : String) (q : Place) : Place :=
  p.withChildren ((name, q) :: p.children.filter (·.1 ≠ name))

mutual

/-- Fixes every table below that comes from a dotted key. -/
def fixDotted : Place → Place
  | mk u f d children => mk u (f || d) false (fixDottedAll children)

/-- Fixes several places. -/
def fixDottedAll : List (String × Place) → List (String × Place)
  | [] => []
  | (name, p) :: rest => (name, p.fixDotted) :: fixDottedAll rest

end

/-- Fixes what is below a place. -/
def fixBelow (p : Place) : Place :=
  p.withChildren (fixDottedAll p.children)

/-- Changes the place that a key leads to. -/
def modify (p : Place) (f : Place → Place) : Key → Place
  | [] => f p
  | name :: rest =>
    match p.get? name with
    | some q => p.put name (q.modify f rest)
    | none => p

/-- Whether a key is in use. -/
def knows (p : Place) : Key → Bool
  | [] => true
  | name :: rest =>
    match p.get? name with
    | some q => q.knows rest
    | none => false

/-- Opens the table with a heading: it must not have had one, and nothing on the way
may be a value. -/
def openTable? (p : Place) : Key → Option Place
  | [] => none
  | [name] =>
    match p.get? name with
    | none => some (p.put name (mk .table true false []))
    | some (mk .table false d children) => some (p.put name (mk .table true d children))
    | some _ => none
  | name :: rest =>
    match p.get? name with
    | none => (p.put name ·) <$> openTable? root rest
    | some q => if q.use = .value then none else (p.put name ·) <$> q.openTable? rest

/-- Opens the next table of an array of tables with a heading. -/
def openArrayTable? (p : Place) : Key → Option Place
  | [] => none
  | [name] =>
    match p.get? name with
    | none => some (p.put name (mk .arrayTable true false []))
    | some (mk .arrayTable f d _) => some (p.put name (mk .arrayTable f d []))
    | some _ => none
  | name :: rest =>
    match p.get? name with
    | none => (p.put name ·) <$> openArrayTable? root rest
    | some q => if q.use = .value then none else (p.put name ·) <$> q.openArrayTable? rest

/-- Uses a key for a value: its last name must be new, and the others must be those of
tables that can be added to. -/
def assign? (p : Place) : Key → Option Place
  | [] => none
  | [name] =>
    match p.get? name with
    | none => some (p.put name (mk .value false true []))
    | some _ => none
  | name :: rest =>
    match p.get? name with
    | none => (p.put name ·) <$> assign? (mk .table false true []) rest
    | some q =>
      if q.use = .table ∧ !q.isFixed then (p.put name ·) <$> q.assign? rest else none

/-- Uses a key in the table that another key leads to. -/
def assignAt? (p : Place) (key : Key) : (table : Key) → Option Place
  | [] => p.assign? key
  | name :: rest => do
    let q ← p.get? name
    let q ← q.assignAt? key rest
    some (p.put name q)

end Place

mutual

/-- Whether every inline table in a value uses its keys only once. -/
def Value.keysDistinct : Value → Bool
  | .array items => itemsDistinct items
  | .table entries => entriesDistinct .root entries
  | _ => true

/-- Whether this holds for the items of an array. -/
def itemsDistinct : List Value → Bool
  | [] => true
  | v :: rest => v.keysDistinct && itemsDistinct rest

/-- Whether this holds for the entries of a table in which some keys are in use. -/
def entriesDistinct (p : Place) : List (Key × Value) → Bool
  | [] => true
  | (key, v) :: rest =>
    match p.assign? key with
    | some p => v.keysDistinct && entriesDistinct p rest
    | none => false

end

end Toml

end SurfaceHost
