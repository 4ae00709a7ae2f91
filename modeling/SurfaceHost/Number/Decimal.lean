import SurfaceHost.Number.Word

/-!
# Decimals

The shortest decimal that stands for a binary floating-point number, and ways to write
a decimal.
-/

namespace SurfaceHost

/-! ### Shortest decimals

The decimal with the fewest digits that still rounds to a given binary
floating-point number, found in exact arithmetic: for one digit, two digits and so
on, the two neighbours of the number on the decimal grid are tried against the
interval of numbers that round to it.
-/

/-- The number `± coefficient * 10 ^ exponent`. -/
structure Decimal where
  negative : Bool
  coefficient : Nat
  exponent : Int
  deriving DecidableEq, Repr

/-- A binary floating-point format: how many bits a full mantissa has, and the
least exponent of a mantissa's last bit. -/
structure BinaryFormat where
  precision : Nat
  leastExponent : Int

/-- The format of a double. -/
def BinaryFormat.double : BinaryFormat := ⟨53, -1074⟩

/-- The format of a single. -/
def BinaryFormat.single : BinaryFormat := ⟨24, -149⟩

namespace Shortest

/-- How many decimal digits a number has; zero has none. -/
def digitCount (n : Nat) : Nat :=
  if n = 0 then 0 else (Nat.toDigits 10 n).length

/-- The numerator and the denominator of `n * 2 ^ e`. -/
def fraction (n : Nat) (e : Int) : Nat × Nat :=
  if 0 ≤ e then (n * Dyadic.power e.toNat, 1) else (n, Dyadic.power (-e).toNat)

/-- The power of ten below a positive fraction: `10 ^ k ≤ num / den < 10 ^ (k + 1)`. -/
def magnitude (num den : Nat) : Int :=
  if den ≤ num then
    (digitCount (num / den) : Int) - 1
  else
    -(digitCount ((den + num - 1) / num - 1) : Int)

/-- The interval of numbers that round to a given one, in quarters of the unit of its
last bit: the number itself, the two ends, and whether the ends belong to it. -/
structure Interval where
  low : Nat
  middle : Nat
  high : Nat
  closed : Bool

/-- The interval around a positive number of the given format. -/
def Interval.around (f : BinaryFormat) (mantissa : Nat) (exponent : Int) : Interval :=
  let atPower := mantissa == Dyadic.power (f.precision - 1) && f.leastExponent < exponent
  { low := if atPower then 4 * mantissa - 1 else 4 * mantissa - 2
    middle := 4 * mantissa
    high := 4 * mantissa + 2
    closed := mantissa % 2 == 0 }

/-- Of the two neighbours `c` and `c + 1` of a number on a decimal grid, the one to
write: it must lie in the interval, the nearer one is preferred, and of two equally
near ones the even one.  All arguments are scaled to the grid by `num` and `den`:
a grid point `c` stands at `c * num`, a quarter unit at `den`. -/
def neighbour? (i : Interval) (num den : Nat) : Option Nat :=
  let c := i.middle * den / num
  let inside (n : Nat) : Bool :=
    if i.closed then i.low * den ≤ n * num && n * num ≤ i.high * den
    else i.low * den < n * num && n * num < i.high * den
  let below := i.middle * den - c * num
  let above := (c + 1) * num - i.middle * den
  let upFirst := above < below || (above == below && c % 2 == 1)
  let first := if upFirst then c + 1 else c
  let second := if upFirst then c else c + 1
  if inside first then some first
  else if inside second then some second
  else none

/-- Tries `digits`, `digits + 1`, … digits, `more` more at the most. -/
def search (i : Interval) (unitExponent : Int) (top : Int) (digits : Nat) : Nat → Nat × Int
  | 0 => (i.middle, 0)
  | more + 1 =>
    -- The grid has the step `10 ^ k`; a quarter unit is `2 ^ unitExponent`.
    let k : Int := top - ((digits : Int) - 1)
    let (quarterNum, quarterDen) := fraction 1 unitExponent
    let num := if 0 ≤ k then 10 ^ k.toNat * quarterDen else quarterDen
    let den := if 0 ≤ k then quarterNum else quarterNum * 10 ^ (-k).toNat
    match neighbour? i num den with
    | some c => (c, k)
    | none => search i unitExponent top (digits + 1) more

/-- Drops the zeros at the end of a coefficient. -/
def dropZeros (exponent : Int) : Nat → Nat → Nat × Int
  | 0, c => (c, exponent)
  | fuel + 1, c =>
    if c % 10 = 0 ∧ c ≠ 0 then dropZeros (exponent + 1) fuel (c / 10) else (c, exponent)

end Shortest

/-- The shortest decimal that rounds to a number of the given format. -/
def Dyadic.shortest (f : BinaryFormat) (d : Dyadic) : Decimal :=
  if d.mantissa = 0 then
    { negative := d.negative, coefficient := 0, exponent := 0 }
  else
    let i := Shortest.Interval.around f d.mantissa d.exponent
    let (num, den) := Shortest.fraction d.mantissa d.exponent
    let (c, k) := Shortest.search i (d.exponent - 2) (Shortest.magnitude num den) 1 17
    let (c, k) := Shortest.dropZeros k 20 c
    { negative := d.negative, coefficient := c, exponent := k }

namespace Decimal

/-! ### Decimal text

Ways to write a decimal: positional, padded with zeros as needed, and scientific
with a signed exponent.
-/

/-- The digits of the coefficient. -/
def digits (d : Decimal) : List Char :=
  Nat.toDigits 10 d.coefficient

/-- The power of ten of the first digit. -/
def leading (d : Decimal) : Int :=
  if d.coefficient = 0 then 0 else d.exponent + d.digits.length - 1

/-- The sign, if there is one to write. -/
def sign (d : Decimal) : String :=
  if d.negative then "-" else ""

/-- Without an exponent: zeros fill the places up to the point. -/
def positional (d : Decimal) : String :=
  let ds := d.digits
  let body :=
    if 0 ≤ d.exponent then
      if d.coefficient = 0 then ds else ds ++ List.replicate d.exponent.toNat '0'
    else
      let places := (-d.exponent).toNat
      if places < ds.length then
        ds.take (ds.length - places) ++ '.' :: ds.drop (ds.length - places)
      else
        '0' :: '.' :: List.replicate (places - ds.length) '0' ++ ds
  d.sign ++ String.ofList body

/-- One digit before the point, and an exponent with a sign and at least
`exponentDigits` digits. -/
def scientific (exponentDigits : Nat) (d : Decimal) : String :=
  let mantissa :=
    match d.digits with
    | [] => ""
    | [c] => c.toString
    | c :: cs => c.toString ++ "." ++ String.ofList cs
  let e := d.leading
  let digits := Nat.toDigits 10 e.natAbs
  let padded := List.replicate (exponentDigits - digits.length) '0' ++ digits
  d.sign ++ mantissa ++ "e" ++ (if e < 0 then "-" else "+") ++ String.ofList padded

end Decimal

end SurfaceHost
