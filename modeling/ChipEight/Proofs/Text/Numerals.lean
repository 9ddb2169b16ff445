import ChipEight.Text.Hex

/-!
# Reading Numerals

Numbers in the texts of a console are written in two bases, in either case and
with or without leading zeros. One reader gets them all back.

`Numeral.read?` takes digits from the left and is strict: no digit at all, or a
character that is none, is no number. Reading undoes writing because a numeral
is written the way it is read, the digits of a quotient and then the digit of
the remainder (`Nat.toDigits_of_base_le`). Leading zeros leave the number read
so far at zero.

## Main definitions

* `Numeral.digit?`: The digit that a character stands for in a base.
* `Numeral.read?`: The number that characters stand for in a base.
* `Numeral.ofWord?`: The number that a word stands for, in the base it is marked
  with.

## Theorems

* `Numeral.le_of_readFrom`: More digits do not make a number smaller.
* `Numeral.readFrom_toDigits`: The digits of a number are read back.
* `Numeral.read?_repr`: So is a decimal numeral.
* `Numeral.read?_padded`, `Numeral.read?_upper`, `Numeral.read?_lower`: So is a
  hexadecimal one with leading zeros, in either case.
* `Numeral.length_upper`, `Numeral.length_lower`: How wide a hexadecimal numeral is.
* `Numeral.ofWord?_repr`, `Numeral.ofWord?_literal`: So are both as words.
-/

namespace ChipEight

namespace Numeral

/-- The digit that a character stands for in a base, in either case. -/
def digit? (base : Nat) (c : Char) : Option Nat :=
  (List.range base).find? fun d => d.digitChar == c.toLower

/-- Reads digits, beginning with a number that was read before them. -/
def readFrom (base : Nat) (start : Nat) (cs : List Char) : Option Nat :=
  cs.foldlM (fun n c => (digit? base c).map (base * n + ·)) start

/-- The number that characters stand for in a base. -/
def read? (base : Nat) (cs : List Char) : Option Nat :=
  if cs = [] then none else readFrom base 0 cs

/-! ### Digits -/

theorem digit?_hex : ∀ d < 16, digit? 16 d.digitChar = some d ∧
    digit? 16 d.digitChar.toUpper = some d := by
  decide

theorem digit?_decimal : ∀ d < 10, digit? 10 d.digitChar = some d := by
  decide

/-! ### Numbers -/

theorem readFrom_append (base start : Nat) (first second : List Char) :
    readFrom base start (first ++ second) =
      (readFrom base start first).bind (readFrom base · second) :=
  List.foldlM_append

theorem readFrom_singleton {base d : Nat} {c : Char} (digit : digit? base c = some d) (n : Nat) :
    readFrom base n [c] = some (base * n + d) := by
  simp only [readFrom, List.foldlM_cons, List.foldlM_nil, digit, Option.map_some]
  rfl

theorem readFrom_cons (base n : Nat) (c : Char) (cs : List Char) :
    readFrom base n (c :: cs) =
      (digit? base c).bind fun d => readFrom base (base * n + d) cs := by
  rw [readFrom, List.foldlM_cons]
  cases digit? base c <;> rfl

/-- More digits do not make a number smaller. -/
theorem le_of_readFrom {base n v : Nat} {cs : List Char} (positive : 0 < base)
    (read : readFrom base n cs = some v) : n ≤ v := by
  induction cs generalizing n with
  | nil => exact Nat.le_of_eq (Option.some.inj read)
  | cons c cs ih =>
      rw [readFrom_cons] at read
      rcases Option.bind_eq_some_iff.mp read with ⟨d, -, rest⟩
      have hscaled : n ≤ base * n := Nat.le_mul_of_pos_left n positive
      exact Nat.le_trans (Nat.le_add_right_of_le hscaled) (ih rest)

/-- Reading undoes writing, whatever is done to the characters as long as it
    leaves the digits they stand for. -/
theorem readFrom_toDigits {base : Nat} (large : 1 < base) (spell : Char → Char)
    (digits : ∀ d < base, digit? base (spell d.digitChar) = some d) (n : Nat) :
    readFrom base 0 ((Nat.toDigits base n).map spell) = some n := by
  -- The digits in front of the last one are those of the quotient.
  induction n using Nat.strongRecOn with
  | ind n ih =>
      by_cases small : n < base
      · rw [Nat.toDigits_of_lt_base small, List.map_singleton, readFrom_singleton (digits n small),
          Nat.mul_zero, Nat.zero_add]
      · have hquotient : n / base < n := Nat.div_lt_self (by omega) large
        have hdigit := digits (n % base) (Nat.mod_lt n (by omega))
        rw [Nat.toDigits_of_base_le large (by omega), List.map_append, readFrom_append,
          ih _ hquotient, Option.bind_some, List.map_singleton, readFrom_singleton hdigit,
          Nat.div_add_mod]

/-- A zero in front of a numeral is read as no more than nothing. -/
theorem readFrom_zeros {base : Nat} {zero : Char} (digit : digit? base zero = some 0)
    (count : Nat) : readFrom base 0 (List.replicate count zero) = some 0 := by
  induction count with
  | zero => rfl
  | succ count ih =>
      rw [List.replicate_succ, ← List.singleton_append, readFrom_append, readFrom_singleton digit,
        Option.bind_some, Nat.mul_zero, ih]

/-- A number in decimal is read back. -/
theorem read?_repr (n : Nat) : read? 10 n.repr.toList = some n := by
  have hdigits := readFrom_toDigits (by decide) id digit?_decimal n
  rw [List.map_id] at hdigits
  rw [Nat.toList_repr, read?, if_neg Nat.toDigits_ne_nil, hdigits]

/-- A number in hexadecimal is read back, however many zeros it has in front and
    whichever way its digits are spelled. -/
theorem read?_padded {spell : Char → Char}
    (digits : ∀ d < 16, digit? 16 (spell d.digitChar) = some d) (width n : Nat) :
    read? 16 ((Hex.padded width n).map spell) = some n := by
  have hdigits := readFrom_toDigits (by decide) spell digits n
  have hsome : (Hex.padded width n).map spell ≠ [] := by
    simp only [Hex.padded, List.leftpad, List.map_append, ne_eq, List.append_eq_nil_iff,
      List.map_eq_nil_iff, Nat.toDigits_ne_nil, and_false, not_false_eq_true]
  have hzero : digit? 16 (spell '0') = some 0 := digits 0 (by decide)
  rw [read?, if_neg hsome, Hex.padded, List.leftpad, List.map_append, List.map_replicate,
    readFrom_append, readFrom_zeros hzero, Option.bind_some, hdigits]

/-- A number in upper-case hexadecimal is read back. -/
theorem read?_upper (width n : Nat) : read? 16 (Hex.upper width n).toList = some n := by
  rw [Hex.upper, String.toList_ofList]
  exact read?_padded (fun d hd => (digit?_hex d hd).2) width n

/-- A number in lower-case hexadecimal is read back. -/
theorem read?_lower (width n : Nat) : read? 16 (Hex.lower width n).toList = some n := by
  rw [Hex.lower, String.toList_ofList, ← List.map_id (Hex.padded width n)]
  exact read?_padded (fun d hd => (digit?_hex d hd).1) width n

/-- A number that does not need more digits takes up exactly the width. -/
theorem length_padded {width n : Nat} (fits : (Nat.toDigits 16 n).length ≤ width) :
    (Hex.padded width n).length = width := by
  rw [Hex.padded, List.length_leftpad, Nat.max_eq_left fits]

theorem length_upper {width n : Nat} (fits : (Nat.toDigits 16 n).length ≤ width) :
    (Hex.upper width n).toList.length = width := by
  rw [Hex.upper, String.toList_ofList, List.length_map, length_padded fits]

theorem length_lower {width n : Nat} (fits : (Nat.toDigits 16 n).length ≤ width) :
    (Hex.lower width n).toList.length = width := by
  rw [Hex.lower, String.toList_ofList, length_padded fits]

/-! ### Numbers of either base -/

/-- The number that a word stands for: in hexadecimal after `0x`, else in
    decimal. -/
def ofWord? (word : String) : Option Nat :=
  match word.toList with
  | '0' :: 'x' :: digits => read? 16 digits
  | digits => read? 10 digits

/-- No decimal numeral looks like the beginning of a hexadecimal one. -/
theorem ofWord?_repr (n : Nat) : ofWord? n.repr = some n := by
  unfold ofWord?
  split
  case h_1 digits h =>
      -- Its second character would be no digit.
      have hread := read?_repr n
      rw [h] at hread
      cases hread
  case h_2 => exact read?_repr n

theorem ofWord?_literal (width n : Nat) : ofWord? ("0x" ++ Hex.upper width n) = some n := by
  rw [ofWord?, String.toList_append]
  exact read?_upper width n

theorem ofWord?_lower (width n : Nat) : ofWord? ("0x" ++ Hex.lower width n) = some n := by
  rw [ofWord?, String.toList_append]
  exact read?_lower width n

end Numeral

end ChipEight
