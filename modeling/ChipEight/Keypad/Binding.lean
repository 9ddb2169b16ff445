import ChipEight.Keypad
import ChipEight.Text.Quoted

/-!
# Written Bindings

A binding is written as a character, an equals sign and the number of a key in
base sixteen: `p=1`. The number may begin with a plus sign and with any number
of zeros.

## Main definitions

* `BindingError`: Why a text is no binding.
* `Binding.parse`: Reads a binding.
* `holdMessage`: What a user is told about a character that stands for no key.

## Theorems

* `Binding.toNat_lt_of_parse`: What is read as a key is one.
-/

namespace ChipEight

/-- Why a text is no binding. -/
inductive BindingError where
  | noEquals (text : String)
  /-- What stands before the equals sign is not one character. -/
  | notOneChar (code : String)
  | emptyKey
  | invalidDigit
  /-- The number passes 255. -/
  | tooLarge
  /-- The number is a byte, but not the number of a key. -/
  | noSuchKey (value : Nat)
  deriving DecidableEq, Repr

/-- The reason as told to a user. -/
def BindingError.message : BindingError → String
  | noEquals text => s!"expected CODE=KEY, got {Text.quoted text}"
  | notOneChar code => s!"input code must be a single character, got {Text.quoted code}"
  | emptyKey => "cannot parse integer from empty string"
  | invalidDigit => "invalid digit found in string"
  | tooLarge => "number too large to fit in target type"
  | noSuchKey value => s!"key must be 0-F, got {Hex.upper 1 value}"

namespace Binding

/-- The value of a digit in base sixteen, in either case. -/
def digitValue? (c : Char) : Option Nat :=
  if '0' ≤ c ∧ c ≤ '9' then some (c.toNat - 48)
  else if 'a' ≤ c ∧ c ≤ 'f' then some (c.toNat - 87)
  else if 'A' ≤ c ∧ c ≤ 'F' then some (c.toNat - 55)
  else none

/-- Reads digits from the left, beginning with a value read before. The first
    digit that is none, or that takes the value past 255, ends it. -/
def readDigits (value : Nat) : List Char → Except BindingError Nat
  | [] => .ok value
  | c :: cs =>
    match digitValue? c with
    | none => .error .invalidDigit
    | some d =>
      if 255 < 16 * value + d then .error .tooLarge else readDigits (16 * value + d) cs

/-- Reads the number of a key. A plus sign counts as one only in front of
    something. -/
def readKey : List Char → Except BindingError Nat
  | [] => .error .emptyKey
  | '+' :: c :: cs => readDigits 0 (c :: cs)
  | cs => readDigits 0 cs

/-- The parts before and after the first equals sign. -/
def splitEquals : List Char → Option (List Char × List Char)
  | [] => none
  | c :: cs =>
    if c = '=' then some ([], cs)
    else (splitEquals cs).map fun (code, key) => (c :: code, key)

/-- Reads a binding. -/
def parse (text : String) : Except BindingError (Char × UInt8) :=
  match splitEquals text.toList with
  | none => .error (.noEquals text)
  | some ([code], key) =>
    match readKey key with
    | .error e => .error e
    | .ok value => if value < 16 then .ok (code, .ofNat value) else .error (.noSuchKey value)
  | some (code, _) => .error (.notOneChar (String.ofList code))

/-- What is read as a key is one. -/
theorem toNat_lt_of_parse {text : String} {code : Char} {key : UInt8}
    (accepted : parse text = .ok (code, key)) : key.toNat < 16 := by
  unfold parse at accepted
  split at accepted
  case h_1 => cases accepted
  case h_2 =>
    split at accepted
    case h_1 => cases accepted
    case h_2 value _ =>
      split at accepted
      case isTrue small =>
        cases accepted
        rwa [UInt8.toNat_ofNat_of_lt' (Nat.lt_trans small (by decide))]
      case isFalse => cases accepted
  case h_3 => cases accepted

end Binding

/-- What a user is told about a character that stands for no key. -/
def holdMessage (code : Char) : String :=
  s!"{Text.quotedChar code} isn't bound to any key"

end ChipEight
