/-!
# Single-Precision Numbers

IEEE-754 binary32 numbers, kept as their 32 bits, so that every bit pattern
is a value of its own and a not-a-number keeps its payload. Every finite
number is a whole multiple of `2 ^ -149`, the smallest one above zero; that
multiple is its number of units. Arithmetic is exact on units, and the result
is then rounded once, to the nearest number, with ties going to the even one.

## Main definitions

* `Single`: A binary32 number.
* `Single.units`: The magnitude of a finite number in units of `2 ^ -149`.
* `Single.ofRatio`: The number nearest to a ratio of units.
* `Single.sub`, `Single.lt`, `Single.clampNegative`: The arithmetic of fading.
-/

namespace ChipEight

/-- A binary32 number. -/
structure Single where
  bits : UInt32
  deriving DecidableEq, Repr, Inhabited

namespace Single

/-- Positive zero. -/
def zero : Single := ⟨0⟩

/-- The bits of positive infinity; patterns above it, sign aside, are
    not-a-numbers. -/
def infinityBits : Nat := 0x7F800000

/-- The quiet not-a-number without a payload. -/
def nan : Single := ⟨0x7FC00000⟩

/-- The bits without the sign. They order numbers by magnitude. -/
def magnitude (a : Single) : Nat :=
  a.bits.toNat % 0x80000000

/-- Whether the sign bit is set. -/
def isNegative (a : Single) : Bool :=
  decide (0x80000000 ≤ a.bits.toNat)

/-- Whether the number is not a number. -/
def isNaN (a : Single) : Bool :=
  decide (infinityBits < a.magnitude)

/-- Whether the number is neither infinite nor a not-a-number. -/
def isFinite (a : Single) : Bool :=
  decide (a.magnitude < infinityBits)

/-- A sign and the bits below it. -/
def ofMagnitude (negative : Bool) (magnitude : Nat) : Single :=
  ⟨UInt32.ofNat (if negative then 0x80000000 + magnitude else magnitude)⟩

/-- The place of a number among all others as an integer; the two zeros share
    theirs. -/
def rank (a : Single) : Int :=
  if a.isNegative then -(a.magnitude : Int) else a.magnitude

/-- The order of the numbers. A not-a-number is neither below nor above
    anything. -/
def lt (a b : Single) : Bool :=
  !a.isNaN && !b.isNaN && decide (a.rank < b.rank)

/-- The units in a magnitude of finite bits: eight bits of exponent, then 23 of
    fraction, with a leading one understood unless the exponent is zero. -/
def unitsOf (magnitude : Nat) : Nat :=
  let exponent := magnitude / 0x800000
  let fraction := magnitude % 0x800000
  if exponent = 0 then fraction else (0x800000 + fraction) <<< (exponent - 1)

/-- The magnitude of a finite number, in units of `2 ^ -149`. -/
def units (a : Single) : Nat :=
  unitsOf a.magnitude

/-- The value of a finite number, in units of `2 ^ -149`. -/
def value (a : Single) : Int :=
  if a.isNegative then -(a.units : Int) else a.units

/-- The whole number nearest to a quotient; of two equally near, the even
    one. -/
def roundQuotient (num den : Nat) : Nat :=
  let q := num / den
  let r := num % den
  if 2 * r < den then q
  else if 2 * r = den then q + q % 2
  else q + 1

/-- The magnitude bits nearest to a ratio of units. Dividing by two to the
    `shift` leaves 24 significant bits; a rounded quotient that reaches the next
    power of two carries into the exponent by itself. What is too large for a
    finite number becomes infinite. -/
def magnitudeOfRatio (num den : Nat) : Nat :=
  let shift := Nat.log2 (num / den) - 23
  min infinityBits (shift * 0x800000 + roundQuotient num (den <<< shift))

/-- The number nearest to a ratio of units with a sign. -/
def ofRatio (negative : Bool) (num den : Nat) : Single :=
  ofMagnitude negative (magnitudeOfRatio num den)

/-- The number nearest to an exact value in units. A result of zero has the
    sign given for it. -/
def ofValue (negativeZero : Bool) (v : Int) : Single :=
  if v = 0 then ofMagnitude negativeZero 0
  else ofRatio (decide (v < 0)) v.natAbs 1

/-- The number with its sign turned. -/
def neg (a : Single) : Single :=
  ofMagnitude (!a.isNegative) a.magnitude

/-- The sum of two numbers, rounded once. Opposite infinities have none, and
    an exact zero is positive unless both numbers are negative. -/
def add (a b : Single) : Single :=
  if a.isNaN || b.isNaN then nan
  else if !a.isFinite then
    if !b.isFinite && a.isNegative != b.isNegative then nan else a
  else if !b.isFinite then b
  else ofValue (a.isNegative && b.isNegative) (a.value + b.value)

/-- The difference of two numbers, rounded once. -/
def sub (a b : Single) : Single :=
  add a b.neg

/-- The larger of a number and zero; a not-a-number counts as absent and gives
    zero. -/
def clampNegative (a : Single) : Single :=
  if lt zero a then a else zero

end Single

end ChipEight
