import SurfaceHost.Number.Word
import SurfaceHost.Toml.Token

/-!
# Numbers

What the numbers of a document mean.  Underscores may stand between digits; a decimal
number has no leading zeros.
-/

namespace SurfaceHost

namespace Toml

/-- Removes underscores, each of which must have come after a digit and another
underscore must not follow it.  `afterDigit` tells whether one may come next. -/
def dropUnderscores? (isDigit : Char → Bool) (afterDigit : Bool) :
    List Char → Option (List Char)
  | [] => some []
  | '_' :: rest => if afterDigit then dropUnderscores? isDigit false rest else none
  | c :: rest => (c :: ·) <$> dropUnderscores? isDigit (isDigit c) rest

/-- Splits off a sign. -/
def splitSign : List Char → List Char × List Char
  | '+' :: rest => (['+'], rest)
  | '-' :: rest => (['-'], rest)
  | cs => ([], cs)

/-! ### Integers -/

/-- The digits of an integer without underscores, of which none stands at an end. -/
def integerDigits? (cs : List Char) : Option (List Char) :=
  if cs.getLast? = some '_' then none else dropUnderscores? (fun _ => true) false cs

/-- An integer in the base marked by `mark`. -/
def basedInteger? (mark : Char) (cs : List Char) : Option Int64 := do
  let base := if mark = 'x' then 16 else if mark = 'o' then 8 else 2
  let digits ← integerDigits? cs
  if digits.isEmpty then none
  let n ← digits.foldlM (fun n c => (Text.hexDigit? c).map (n * base + ·)) 0
  if n ≤ Int64.maxValue.toInt.toNat then some (Int64.ofNat n) else none

/-- A decimal integer. -/
def decimalInteger? (cs : List Char) : Option Int64 := do
  let (sign, digits) := splitSign cs
  let digits ← integerDigits? digits
  match digits with
  | '0' :: _ :: _ => none
  | _ => (Numeral.word (sign ++ digits)).toOption

/-- The integer that is written, if it is well-formed and in range. -/
def integer? (source : List Char) : Option Int64 :=
  match source with
  | '0' :: mark :: c :: rest =>
    if mark = 'x' ∨ mark = 'o' ∨ mark = 'b' then basedInteger? mark (c :: rest)
    else decimalInteger? source
  | _ => decimalInteger? source

/-! ### Reals -/

/-- A real number without underscores.  None stands at an end, next to the point or
next to the mark of the exponent, nor after a sign. -/
def realDigits? (cs : List Char) : Option (List Char) :=
  let isMark (c : Char) : Bool := c == '.' || c == 'e' || c == 'E'
  let besideMark := (cs.zip cs.tail).any fun (a, b) =>
    (a == '_' && isMark b) || (isMark a && b == '_')
  if cs.getLast? = some '_' || besideMark then none
  else dropUnderscores? (fun c => !(c == '+' || c == '-')) false cs

/-- A run of digits as a number. -/
def naturalOf (cs : List Char) : Nat :=
  cs.foldl (fun n c => n * 10 + (c.toNat - '0'.toNat)) 0

/-- The double nearest to the number with these digits, times ten to the `exponent`,
unless it is too large. -/
def nearestDouble? (negative : Bool) (digits : List Char) (exponent : Int) : Option Float :=
  let magnitude : Float :=
    let digits := digits.dropWhile (· == '0')
    let leading := exponent + digits.length
    if digits.isEmpty ∨ leading < -400 then 0
    else if 400 < leading then 1.0 / 0.0
    else Float.ofScientific (naturalOf digits) (exponent < 0) exponent.natAbs
  if magnitude.isInf then none else some (if negative then -magnitude else magnitude)

/-- The size of an exponent.  Only as many digits count as it takes to come to ten
thousand, so that a longer exponent is smaller than it says. -/
def exponentSize (digits : List Char) : Nat :=
  digits.foldl (fun n c => if n < 10000 then n * 10 + (c.toNat - '0'.toNat) else n) 0

/-- The exponent that ends a real number. -/
def exponent? : List Char → Option Int
  | [] => some 0
  | c :: rest =>
    if c = 'e' ∨ c = 'E' then
      let (sign, digits) := splitSign rest
      if digits.isEmpty ∨ !digits.all Char.isDigit then none
      else
        let n : Int := exponentSize digits
        some (if sign = ['-'] then -n else n)
    else none

/-- A finite real number without underscores: digits, a point with digits on both
sides, an exponent; leading zeros are not allowed. -/
def finiteReal? (negative : Bool) (cs : List Char) : Option Float := do
  let whole := cs.takeWhile Char.isDigit
  let rest := cs.dropWhile Char.isDigit
  match whole with
  | [] | '0' :: _ :: _ => none
  | _ =>
    let (places, rest) ←
      match rest with
      | '.' :: rest =>
        let places := rest.takeWhile Char.isDigit
        if places.isEmpty then none else some (places, rest.dropWhile Char.isDigit)
      | _ => some ([], rest)
    let e ← exponent? rest
    nearestDouble? negative (whole ++ places) (e - places.length)

/-- The double that is written, if it is well-formed and not too large.  An integer is
a real number too, if it is decimal. -/
def real? (source : List Char) : Option Float := do
  let nan : Float := 0.0 / 0.0
  let infinity : Float := 1.0 / 0.0
  match String.ofList source with
  | "nan" | "+nan" | "-nan" => some nan
  | _ =>
    let (sign, digits) := splitSign (← realDigits? source)
    let negative := sign = ['-']
    if digits = "inf".toList then some (if negative then -infinity else infinity)
    else finiteReal? negative digits

/-- The largest single, as a double. -/
def largestSingle : Float := 340282346638528859811704183484516925440.0

/-- A real number as a single.  One above the largest single is refused; one far below
zero becomes the negative infinity. -/
def single? (source : List Char) : Option Float32 := do
  let x ← real? source
  if x > largestSingle then none else some x.toFloat32

end Toml

end SurfaceHost
