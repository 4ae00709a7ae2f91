/-!
# Words

Words of 64 bits and where they come from: floating-point numbers, by way of their
exact values; decimal numerals; and instants, whose differences are durations.
-/

namespace SurfaceHost

/-! ### Dyadic numbers

The exact value of a finite binary floating-point number: a sign, a whole number
and a power of two.  Rounding to a whole number is done here, where nothing is
lost.
-/

/-- The number `± mantissa * 2 ^ exponent`. -/
structure Dyadic where
  negative : Bool
  mantissa : Nat
  exponent : Int
  deriving DecidableEq, Repr

namespace Dyadic

/-- The power of two with the given exponent. -/
def power (exponent : Nat) : Nat :=
  1 <<< exponent

/-- The number with the given fields of a binary interchange format that has
`fraction` fraction bits and exponent bias `bias`. -/
def ofFields (fraction bias : Nat) (negative : Bool) (biased significand : Nat) : Dyadic :=
  if biased = 0 then
    { negative, mantissa := significand, exponent := 1 - (bias + fraction : Nat) }
  else
    { negative
      mantissa := power fraction + significand
      exponent := (biased : Int) - (bias + fraction : Nat) }

/-- The value of a double, unless it is infinite or not a number. -/
def ofFloat? (x : Float) : Option Dyadic :=
  let bits := x.toBits.toNat
  let biased := bits / power 52 % power 11
  if biased = power 11 - 1 then none
  else some (ofFields 52 1023 (bits / power 63 == 1) biased (bits % power 52))

/-- The value of a single, unless it is infinite or not a number. -/
def ofFloat32? (x : Float32) : Option Dyadic :=
  let bits := x.toBits.toNat
  let biased := bits / power 23 % power 8
  if biased = power 8 - 1 then none
  else some (ofFields 23 127 (bits / power 31 == 1) biased (bits % power 23))

/-- Puts the sign of `d` in front of a magnitude. -/
def signed (d : Dyadic) (magnitude : Nat) : Int :=
  if d.negative then -(magnitude : Int) else magnitude

/-- The magnitude without its fractional part. -/
def floorMagnitude (d : Dyadic) : Nat :=
  if 0 ≤ d.exponent then d.mantissa * power d.exponent.toNat
  else d.mantissa / power (-d.exponent).toNat

/-- The whole number next to `d` on the side of zero. -/
def truncate (d : Dyadic) : Int :=
  d.signed d.floorMagnitude

/-- The whole number nearest to `d`; a half goes away from zero. -/
def round (d : Dyadic) : Int :=
  if 0 ≤ d.exponent then d.truncate
  else
    let unit := power (-d.exponent).toNat
    d.signed ((2 * d.mantissa + unit) / (2 * unit))

/-- Whether `d` has no fractional part. -/
def isWhole (d : Dyadic) : Bool :=
  0 ≤ d.exponent || d.mantissa % power (-d.exponent).toNat == 0

end Dyadic

/-- A whole number as a 64-bit word; one that does not fit becomes the least word. -/
def Word.ofInt (i : Int) : Int64 :=
  if Int64.minValue.toInt ≤ i ∧ i ≤ Int64.maxValue.toInt then Int64.ofInt i
  else Int64.minValue

/-- A single as a word, without its fractional part. -/
def Word.truncate32 (x : Float32) : Int64 :=
  match Dyadic.ofFloat32? x with
  | some d => Word.ofInt d.truncate
  | none => Int64.minValue

/-- A double as a word, without its fractional part. -/
def Word.truncate (x : Float) : Int64 :=
  match Dyadic.ofFloat? x with
  | some d => Word.ofInt d.truncate
  | none => Int64.minValue

/-- The word nearest to a double; a half goes away from zero. -/
def Word.round (x : Float) : Int64 :=
  match Dyadic.ofFloat? x with
  | some d => Word.ofInt d.round
  | none => Int64.minValue

/-! ### Signed numerals

Reading a decimal numeral with an optional sign as a 64-bit word, character by
character: the first character that is no digit spoils the numeral, and so does the
first digit that takes its magnitude beyond 64 bits.
-/

/-- Why a text is not the numeral of a word. -/
inductive NumeralError where
  | malformed
  | outOfRange
  deriving DecidableEq, Repr

/-- The wording of a `NumeralError`. -/
def NumeralError.message : NumeralError → String
  | .malformed => "invalid syntax"
  | .outOfRange => "value out of range"

namespace Numeral

/-- Reads digits on top of the value `n` read so far. -/
def magnitude (n : Nat) : List Char → Except NumeralError Nat
  | [] => .ok n
  | c :: rest =>
    if c.isDigit then
      let n := n * 10 + (c.toNat - '0'.toNat)
      if n < 2 ^ 64 then magnitude n rest else .error .outOfRange
    else
      .error .malformed

/-- Reads an unsigned numeral, which has at least one digit. -/
def unsigned : List Char → Except NumeralError Nat
  | [] => .error .malformed
  | cs => magnitude 0 cs

/-- Reads a numeral with an optional sign. -/
def word (cs : List Char) : Except NumeralError Int64 := do
  let i : Int ←
    match cs with
    | '+' :: rest => Int.ofNat <$> unsigned rest
    | '-' :: rest => (fun n : Nat => -(n : Int)) <$> unsigned rest
    | _ => Int.ofNat <$> unsigned cs
  if Int64.minValue.toInt ≤ i ∧ i ≤ Int64.maxValue.toInt then
    .ok (Int64.ofInt i)
  else
    .error .outOfRange

end Numeral

/-! ### Durations and instants

An instant is an integer number of nanoseconds on some clock.  A duration is a
64-bit number of nanoseconds: the difference of two instants is cut off at the
ends of that range, while a number of milliseconds is taken modulo 2^64.
-/

/-- Nanoseconds on a clock. -/
abbrev Instant := Int

/-- A 64-bit number of nanoseconds. -/
abbrev Duration := Int64

namespace Duration

/-- The longest duration. -/
def longest : Duration := Int64.maxValue

/-- The nearest duration to an integer number of nanoseconds. -/
def saturate (ns : Int) : Duration :=
  if ns < Int64.minValue.toInt then Int64.minValue
  else if Int64.maxValue.toInt < ns then Int64.maxValue
  else Int64.ofInt ns

/-- The duration from `start` to `finish`, cut off at the ends of the range. -/
def between (start finish : Instant) : Duration :=
  saturate (finish - start)

/-- A number of milliseconds, modulo 2^64 nanoseconds. -/
def ofMilliseconds (ms : Int64) : Duration :=
  ms * 1000000

/-- A duration in seconds: whole seconds and the rest are converted one by one. -/
def seconds (d : Duration) : Float :=
  Float.ofInt (d / 1000000000).toInt + Float.ofInt (d % 1000000000).toInt / 1000000000.0

end Duration

end SurfaceHost
