import ChipEight.Single

/-!
# Single-Precision Numbers from Decimal Text

A decimal text is an optional sign before `inf`, `infinity`, `nan` (in any
case) or a number: digits with at most one point among or around them, then
optionally `e` or `E`, a sign and the digits of a power of ten. It is read as
the number nearest to the exact value.

## Main definitions

* `Decimal`: A written number as a whole coefficient and a power of ten.
* `Decimal.parse?`: Reads the digits, the point and the exponent.
* `Single.parse?`: Reads a whole text.
-/

namespace ChipEight

/-- A written number without its sign: a whole coefficient times a power of
    ten. -/
structure Decimal where
  coefficient : Nat
  exponent : Int
  deriving DecidableEq, Repr

namespace Decimal

/-- Reads digits to the end of the text; there has to be one. -/
def wholeDigits? (cs : List Char) : Option Nat :=
  if cs ≠ [] ∧ cs.all Char.isDigit then some (Nat.ofDigitChars 10 cs 0) else none

/-- Reads the part after the `e`: a sign and digits, to the end of the text. -/
def exponent? : List Char → Option Int
  | '+' :: cs => (wholeDigits? cs).map fun n => (n : Int)
  | '-' :: cs => (wholeDigits? cs).map fun n => -(n : Int)
  | cs => (wholeDigits? cs).map fun n => (n : Int)

/-- Reads what may follow the digits: nothing, or an exponent. -/
def tail? : List Char → Option Int
  | [] => some 0
  | c :: cs => if c = 'e' ∨ c = 'E' then exponent? cs else none

/-- Reads an unsigned number. At least one digit has to stand before or after
    the point. -/
def parse? (cs : List Char) : Option Decimal :=
  let whole := cs.takeWhile Char.isDigit
  let rest := cs.dropWhile Char.isDigit
  let (fraction, rest) := match rest with
    | '.' :: rest => (rest.takeWhile Char.isDigit, rest.dropWhile Char.isDigit)
    | rest => ([], rest)
  if whole ++ fraction = [] then none
  else (tail? rest).map fun e =>
    ⟨Nat.ofDigitChars 10 (whole ++ fraction) 0, e - fraction.length⟩

/-- The number of decimal digits of a natural number, at least one. -/
def digitCount (n : Nat) : Nat :=
  (Nat.toDigits 10 n).length

/-- The number nearest to a decimal. Beyond `10 ^ 60` everything is infinite and
    below `10 ^ -60` everything is zero, so that no larger power of ten is ever
    computed. -/
def toSingle (negative : Bool) (d : Decimal) : Single :=
  let order := d.exponent + digitCount d.coefficient
  if d.coefficient = 0 ∨ order < -60 then .ofMagnitude negative 0
  else if 60 < order then .ofMagnitude negative Single.infinityBits
  else .ofRatio negative ((d.coefficient * Nat.pow 10 d.exponent.toNat) <<< 149)
    (Nat.pow 10 (-d.exponent).toNat)

end Decimal

namespace Single

/-- Reads a number without its sign. -/
def parseUnsigned? (negative : Bool) (cs : List Char) : Option Single :=
  let word := String.ofList (cs.map Char.toLower)
  if word = "inf" ∨ word = "infinity" then some (ofMagnitude negative infinityBits)
  else if word = "nan" then some (ofMagnitude negative nan.magnitude)
  else (Decimal.parse? cs).map (Decimal.toSingle negative)

/-- Reads a decimal text. -/
def parse? (text : String) : Option Single :=
  match text.toList with
  | '+' :: cs => parseUnsigned? false cs
  | '-' :: cs => parseUnsigned? true cs
  | cs => parseUnsigned? false cs

end Single

end ChipEight
