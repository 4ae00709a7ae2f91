/-!
# Characters and texts

Hexadecimal digits, white space, letter case, and messages that need not be text.
-/

namespace SurfaceHost

namespace Text

/-! ### Hexadecimal digits -/

/-- The digits of `n` in lower case, filled up with zeros to `width`. -/
def hex (width n : Nat) : String :=
  let digits := Nat.toDigits 16 n
  String.ofList (List.replicate (width - digits.length) '0' ++ digits)

/-- The value of a hexadecimal digit. -/
def hexDigit? (c : Char) : Option Nat :=
  if '0' ≤ c ∧ c ≤ '9' then some (c.toNat - '0'.toNat)
  else if 'a' ≤ c ∧ c ≤ 'f' then some (c.toNat - 'a'.toNat + 10)
  else if 'A' ≤ c ∧ c ≤ 'F' then some (c.toNat - 'A'.toNat + 10)
  else none

/-! ### White space

The white space characters of Unicode, and text without them at its ends.
-/

/-- Whether a character is white space. -/
def isSpace (c : Char) : Bool :=
  let n := c.toNat
  (0x09 ≤ n && n ≤ 0x0d) || n == 0x20 || n == 0x85 || n == 0xa0 || n == 0x1680
    || (0x2000 ≤ n && n ≤ 0x200a) || n == 0x2028 || n == 0x2029 || n == 0x202f
    || n == 0x205f || n == 0x3000

/-- The text without white space at its ends. -/
def trimSpace (s : String) : String :=
  String.ofList ((s.toList.dropWhile isSpace).reverse.dropWhile isSpace).reverse

/-! ### Letter case

Case maps for comparing text with words of ASCII letters.  Besides the ASCII letters
themselves there are two characters whose lower case is an ASCII letter and two whose
upper case is one; every other character stays as it is, which no comparison with an
ASCII word can tell from its full case map.
-/

/-- Lower case, as far as it lands in ASCII: U+0130 lowers to `i`, U+212A to `k`. -/
def lowerChar (c : Char) : Char :=
  if c = '\u0130' then 'i'
  else if c = '\u212a' then 'k'
  else c.toLower

/-- Upper case, as far as it lands in ASCII: U+0131 raises to `I`, U+017F to `S`. -/
def upperChar (c : Char) : Char :=
  if c = '\u0131' then 'I'
  else if c = '\u017f' then 'S'
  else c.toUpper

/-- The text in lower case, as far as it lands in ASCII. -/
def lower (s : String) : String :=
  s.map lowerChar

/-- The text in upper case, as far as it lands in ASCII. -/
def upper (s : String) : String :=
  s.map upperChar

/-! ### Messages

A message can carry bytes that came from elsewhere, so it need not be valid UTF-8.
It is read as characters where it is valid and as stray bytes where it is not: a byte
that does not begin a well-formed sequence stands for itself, and reading goes on with
the next one.
-/

/-- One piece of a message. -/
inductive Piece where
  | char (c : Char)
  /-- A byte that belongs to no character. -/
  | stray (b : UInt8)
  deriving DecidableEq, Repr

/-- Whether a byte continues a multi-byte character. -/
def isTail (b : UInt8) : Bool :=
  0x80 ≤ b && b ≤ 0xbf

/-- The character at the front of some bytes and how many bytes it takes, if they
begin with a well-formed one: no longer form than needed, no surrogate, nothing above
U+10FFFF. -/
def leadingChar? : List UInt8 → Option (Char × Nat)
  | [] => none
  | a :: rest =>
    let n := a.toNat
    if n < 0x80 then
      some (Char.ofNat n, 1)
    else
      match rest with
      | b :: rest =>
        if 0xc2 ≤ n ∧ n ≤ 0xdf then
          if isTail b then some (Char.ofNat ((n - 0xc0) * 0x40 + (b.toNat - 0x80)), 2) else none
        else
          match rest with
          | c :: rest =>
            if 0xe0 ≤ n ∧ n ≤ 0xef then
              let v := (n - 0xe0) * 0x1000 + (b.toNat - 0x80) * 0x40 + (c.toNat - 0x80)
              if isTail b && isTail c && 0x800 ≤ v && !(0xd800 ≤ v && v ≤ 0xdfff) then
                some (Char.ofNat v, 3)
              else
                none
            else
              match rest with
              | d :: _ =>
                if 0xf0 ≤ n ∧ n ≤ 0xf4 then
                  let v := (n - 0xf0) * 0x40000 + (b.toNat - 0x80) * 0x1000
                    + (c.toNat - 0x80) * 0x40 + (d.toNat - 0x80)
                  if isTail b && isTail c && isTail d && 0x10000 ≤ v && v ≤ 0x10ffff then
                    some (Char.ofNat v, 4)
                  else
                    none
                else
                  none
              | [] => none
          | [] => none
      | [] => none

/-- Reads bytes as pieces, skipping the bytes of a character that was already read. -/
def piecesFrom : (skip : Nat) → List UInt8 → List Piece
  | _, [] => []
  | skip + 1, _ :: rest => piecesFrom skip rest
  | 0, b :: rest =>
    match leadingChar? (b :: rest) with
    | some (c, n) => .char c :: piecesFrom (n - 1) rest
    | none => .stray b :: piecesFrom 0 rest

/-- The pieces of some bytes. -/
def piecesOfBytes (bytes : ByteArray) : List Piece :=
  piecesFrom 0 bytes.toList

/-- The pieces of a text. -/
def piecesOfString (s : String) : List Piece :=
  s.toList.map .char

end Text

end SurfaceHost
