import ChipEight.Keypad.Binding
import ChipEight.Proofs.Text.Numerals

/-!
# How Bindings are Written

A binding is a character other than the equals sign, an equals sign, and the number of
a key in hexadecimal digits of either case, with a plus sign and zeros in front if one
likes. Every other text is refused, for the reason that comes first from the left.

The grammar is stated by cutting the text into parts, and a number is what
`Numeral.read?` makes of all its digits, however many there are. Reading goes from left
to right, stops where it has to, and never lets the number pass a byte. The two agree
because more digits do not make a number smaller (`Numeral.le_of_readFrom`): a number
that ends as a byte was one all along, and after one that has passed a byte nothing
can be read any more.

A text may have several faults, and still there is one reason to refuse it. That is
not shown by comparing reasons. Whatever the grammar accepts or refuses, the reader
accepts or refuses alike, and since the grammar has something to say about every text
(`Binding.written_or_refused`), the reader says nothing else.

## Main definitions

* `Binding.Written`: A text binds a character to a key.
* `Binding.GoesWrong`: Digits go wrong at one of them.
* `Binding.Refused`: A text is no binding, and why.

## Theorems

* `Binding.splitEquals_eq_some_iff`: What stands on either side of the first equals
  sign.
* `Binding.readDigits_eq_ok_iff`, `Binding.readDigits_eq_error_iff`: What digits make
  up, and where they go wrong.
* `Binding.written_or_refused`: Every text is a binding or is refused.
* `bindings_follow_grammar`: Reading tells bindings from other texts and gives the
  first reason.
-/

namespace ChipEight

namespace Binding

open Numeral

/-! ### The first equals sign -/

theorem splitEquals_eq_none_iff {cs : List Char} : splitEquals cs = none ↔ '=' ∉ cs := by
  induction cs with
  | nil => exact iff_of_true rfl List.not_mem_nil
  | cons c cs ih =>
      rw [splitEquals, List.mem_cons, not_or]
      split
      case isTrue equals => simp only [reduceCtorEq, equals, not_true_eq_false, false_and]
      case isFalse other =>
        rw [Option.map_eq_none_iff, ih]
        exact (and_iff_right (Ne.symm other)).symm

theorem splitEquals_eq_some_iff {cs code key : List Char} :
    splitEquals cs = some (code, key) ↔ cs = code ++ '=' :: key ∧ '=' ∉ code := by
  induction cs generalizing code with
  | nil =>
      simp only [splitEquals, reduceCtorEq, List.nil_eq, List.append_eq_nil_iff, and_false,
        false_and]
  | cons c cs ih =>
      rw [splitEquals]
      constructor
      · intro cut
        split at cut
        case isTrue equals =>
          cases cut
          exact ⟨by rw [equals, List.nil_append], List.not_mem_nil⟩
        case isFalse other =>
          rcases Option.map_eq_some_iff.mp cut with ⟨⟨rest, key'⟩, hrest, same⟩
          cases same
          rcases ih.mp hrest with ⟨rfl, first⟩
          exact ⟨rfl, List.not_mem_cons_of_ne_of_not_mem (Ne.symm other) first⟩
      · rintro ⟨parts, first⟩
        cases code with
        | nil =>
            cases parts
            exact if_pos rfl
        | cons d code =>
            -- An equals sign there would be one in front of the first.
            cases parts
            rw [List.mem_cons, not_or] at first
            rw [if_neg (Ne.symm first.1), ih.mpr ⟨rfl, first.2⟩, Option.map_some]

/-! ### Digits -/

/-- The digits of a key are those of any hexadecimal numeral. -/
theorem digitValue?_eq (c : Char) : digitValue? c = digit? 16 c := by
  have hascii : ∀ n < 128, digitValue? (Char.ofNat n) = digit? 16 (Char.ofNat n) := by
    decide
  by_cases small : c.toNat < 128
  · have hc := hascii c.toNat small
    rwa [Char.ofNat_toNat] at hc
  · -- Neither table has a character beyond the first 128.
    have hbelow : ∀ last : Char, last.toNat < 128 → ¬c ≤ last := fun last ascii below =>
      small (Nat.lt_of_le_of_lt below ascii)
    have hlower : c.toLower = c := dif_neg fun upper => hbelow 'Z' (by decide) upper.2
    have hdigits : ∀ d < 16, d.digitChar.toNat < 128 := by decide
    have hnone : digit? 16 c = none := by
      rw [digit?, List.find?_eq_none, hlower]
      intro d hd same
      rw [beq_iff_eq] at same
      exact small (same ▸ hdigits d (List.mem_range.mp hd))
    rw [hnone, digitValue?, if_neg fun h => hbelow '9' (by decide) h.2,
      if_neg fun h => hbelow 'f' (by decide) h.2, if_neg fun h => hbelow 'F' (by decide) h.2]

theorem readDigits_eq_ok_iff {n v : Nat} {cs : List Char} (byte : n ≤ 255) :
    readDigits n cs = .ok v ↔ readFrom 16 n cs = some v ∧ v ≤ 255 := by
  induction cs generalizing n with
  | nil =>
      have hread : readFrom 16 n [] = some n := rfl
      rw [readDigits, hread, Except.ok.injEq, Option.some.injEq]
      exact ⟨fun same => ⟨same, same ▸ byte⟩, And.left⟩
  | cons c cs ih =>
      rw [readDigits, readFrom_cons, digitValue?_eq]
      cases digit? 16 c with
      | none => simp only [reduceCtorEq, Option.bind_none, false_and]
      | some d =>
          rw [Option.bind_some]
          by_cases large : 255 < 16 * n + d
          · -- The digits that follow do not make the number smaller again.
            simp only [if_pos large, reduceCtorEq, false_iff, not_and, Nat.not_le]
            exact fun read => Nat.lt_of_lt_of_le large (le_of_readFrom (by decide) read)
          · simp only [if_neg large]
            exact ih (Nat.le_of_not_lt large)

/-- A character cannot be the next digit behind a number: it is no digit, or the number
    would pass a byte. -/
inductive Offends (n : Nat) (c : Char) : BindingError → Prop where
  | invalid (none : digit? 16 c = none) : Offends n c .invalidDigit
  | large {d : Nat} (digit : digit? 16 c = some d) (passes : 255 < 16 * n + d) :
    Offends n c .tooLarge

theorem offends_of_none {n : Nat} {c : Char} {e : BindingError} (none : digit? 16 c = none) :
    Offends n c e ↔ e = .invalidDigit := by
  constructor
  · intro offends
    cases offends with
    | invalid => rfl
    | large digit => cases none.symm.trans digit
  · rintro rfl
    exact .invalid none

theorem offends_of_some {n d : Nat} {c : Char} {e : BindingError} (digit : digit? 16 c = some d) :
    Offends n c e ↔ 255 < 16 * n + d ∧ e = .tooLarge := by
  constructor
  · intro offends
    cases offends with
    | invalid none => cases none.symm.trans digit
    | large digit' passes =>
        cases Option.some.inj (digit.symm.trans digit')
        exact ⟨passes, rfl⟩
  · rintro ⟨passes, rfl⟩
    exact .large digit passes

/-- Digits, read behind a number, go wrong at one of them. What stands before it makes a
    byte. -/
def GoesWrong (n : Nat) (cs : List Char) (e : BindingError) : Prop :=
  ∃ before c after v, cs = before ++ c :: after ∧ readFrom 16 n before = some v ∧ v ≤ 255 ∧
    Offends v c e

theorem goesWrong_cons {n : Nat} {c : Char} {cs : List Char} {e : BindingError} :
    GoesWrong n (c :: cs) e ↔ n ≤ 255 ∧ Offends n c e ∨
      ∃ d, digit? 16 c = some d ∧ GoesWrong (16 * n + d) cs e := by
  constructor
  · rintro ⟨before, c', after, v, split, read, byte, offends⟩
    cases before with
    | nil =>
        rw [List.nil_append, List.cons.injEq] at split
        cases Option.some.inj read
        rw [split.1]
        exact .inl ⟨byte, offends⟩
    | cons b before =>
        rw [List.cons_append, List.cons.injEq] at split
        rw [readFrom_cons, ← split.1] at read
        rcases Option.bind_eq_some_iff.mp read with ⟨d, digit, rest⟩
        exact .inr ⟨d, digit, before, c', after, v, split.2, rest, byte, offends⟩
  · rintro (⟨byte, offends⟩ | ⟨d, digit, before, c', after, v, split, read, byte, offends⟩)
    · exact ⟨[], c, cs, n, rfl, rfl, byte, offends⟩
    · refine ⟨c :: before, c', after, v, by rw [split, List.cons_append], ?_, byte, offends⟩
      rw [readFrom_cons, digit, Option.bind_some, read]

theorem not_goesWrong_nil {n : Nat} {e : BindingError} : ¬GoesWrong n [] e := by
  rintro ⟨before, c, after, v, parts, -⟩
  exact List.append_ne_nil_of_right_ne_nil before (List.cons_ne_nil c after) parts.symm

theorem GoesWrong.le {n : Nat} {cs : List Char} {e : BindingError} (wrong : GoesWrong n cs e) :
    n ≤ 255 := by
  rcases wrong with ⟨before, c, after, v, -, read, byte, -⟩
  exact Nat.le_trans (le_of_readFrom (by decide) read) byte

theorem readDigits_eq_error_iff {n : Nat} {cs : List Char} {e : BindingError} (byte : n ≤ 255) :
    readDigits n cs = .error e ↔ GoesWrong n cs e := by
  induction cs generalizing n with
  | nil =>
      simp only [readDigits, reduceCtorEq, not_goesWrong_nil]
  | cons c cs ih =>
      rw [readDigits, goesWrong_cons, digitValue?_eq]
      rcases hdigit : digit? 16 c with _ | d
      · simp only [offends_of_none hdigit, byte, reduceCtorEq, true_and, false_and, exists_false,
          or_false, Except.error.injEq, eq_comm]
      · simp only [offends_of_some hdigit, byte, true_and, Option.some.injEq, exists_eq_left']
        by_cases large : 255 < 16 * n + d
        · -- The digits that follow are not read behind a byte any more.
          have hbehind : ¬GoesWrong (16 * n + d) cs e := fun wrong =>
            Nat.not_le_of_lt large wrong.le
          simp only [large, if_pos, true_and, hbehind, or_false, Except.error.injEq, eq_comm]
        · simp only [large, if_neg, not_false_eq_true, false_and, false_or,
            ih (Nat.le_of_not_lt large)]

/-! ### Numbers of keys -/

/-- The number of a key without its plus sign. A plus sign with nothing behind it is
    none. -/
def unsigned : List Char → List Char
  | '+' :: c :: cs => c :: cs
  | cs => cs

theorem readKey_eq {key : List Char} (nonempty : key ≠ []) :
    readKey key = readDigits 0 (unsigned key) := by
  unfold readKey unsigned
  split
  case h_1 => exact absurd rfl nonempty
  case h_2 => rfl
  case h_3 unsigned =>
    split
    case h_1 => exact (unsigned _ _ rfl).elim
    case h_2 => rfl

theorem unsigned_ne_nil {key : List Char} (nonempty : key ≠ []) : unsigned key ≠ [] := by
  unfold unsigned
  split
  · exact List.cons_ne_nil _ _
  · exact nonempty

theorem readKey_eq_ok_iff {key : List Char} {v : Nat} :
    readKey key = .ok v ↔ read? 16 (unsigned key) = some v ∧ v ≤ 255 := by
  by_cases empty : key = []
  · subst empty
    exact iff_of_false (fun h => by cases h) fun h => by cases h.1
  · rw [readKey_eq empty, read?, if_neg (unsigned_ne_nil empty),
      readDigits_eq_ok_iff (Nat.zero_le _)]

theorem readKey_eq_error_iff {key : List Char} {e : BindingError} :
    readKey key = .error e ↔ key = [] ∧ e = .emptyKey ∨ GoesWrong 0 (unsigned key) e := by
  by_cases empty : key = []
  · subst empty
    simp only [readKey, unsigned, not_goesWrong_nil, Except.error.injEq, true_and, or_false,
      eq_comm]
  · rw [readKey_eq empty, readDigits_eq_error_iff (Nat.zero_le _)]
    simp only [empty, false_and, false_or]

/-- A number is read behind its sign exactly if it is the sign, or no sign, and digits. -/
theorem read?_unsigned_iff {key : List Char} {v : Nat} :
    read? 16 (unsigned key) = some v ↔
      ∃ sign digits, (sign = [] ∨ sign = ['+']) ∧ read? 16 digits = some v ∧
        key = sign ++ digits := by
  constructor
  · intro read
    unfold unsigned at read
    split at read
    · exact ⟨['+'], _, .inr rfl, read, rfl⟩
    · exact ⟨[], _, .inl rfl, read, rfl⟩
  · rintro ⟨sign, digits, rfl | rfl, read, rfl⟩
    · unfold unsigned
      split
      · -- A plus sign is no digit.
        cases read
      · exact read
    · cases digits with
      | nil => cases read
      | cons c cs => exact read

/-! ### Bindings -/

/-- A text is one character, which is no equals sign, an equals sign, and the number of
    a key. -/
structure Splits (text : String) (code : Char) (number : List Char) : Prop where
  other : code ≠ '='
  parts : text.toList = code :: '=' :: number

/-- A text binds a character to a key: the number of the key is written behind an
    equals sign, after a plus sign or without one, in digits of either case with any
    number of zeros before them. -/
def Written (text : String) (code : Char) (key : UInt8) : Prop :=
  key.toNat < 16 ∧ ∃ sign digits, (sign = [] ∨ sign = ['+']) ∧
    Splits text code (sign ++ digits) ∧ read? 16 digits = some key.toNat

/-- A text is no binding, for the reason that comes first from the left. -/
inductive Refused (text : String) : BindingError → Prop where
  | noEquals (absent : '=' ∉ text.toList) : Refused text (.noEquals text)
  | notOneChar {code number : List Char} (parts : text.toList = code ++ '=' :: number)
    (first : '=' ∉ code) (length : code.length ≠ 1) :
    Refused text (.notOneChar (String.ofList code))
  | emptyKey {code : Char} (splits : Splits text code []) : Refused text .emptyKey
  | wrongDigit {code : Char} {number : List Char} {e : BindingError}
    (splits : Splits text code number) (wrong : GoesWrong 0 (unsigned number) e) :
    Refused text e
  | noSuchKey {code : Char} {number : List Char} {v : Nat} (splits : Splits text code number)
    (read : read? 16 (unsigned number) = some v) (beyond : 16 ≤ v) (byte : v ≤ 255) :
    Refused text (.noSuchKey v)

variable {text : String} {code : Char} {key : UInt8} {number : List Char} {e : BindingError}

theorem Splits.splitEquals (splits : Splits text code number) :
    splitEquals text.toList = some ([code], number) :=
  splitEquals_eq_some_iff.mpr ⟨splits.parts, fun member =>
    splits.other (List.mem_singleton.mp member).symm⟩

theorem Splits.parse_of_error (splits : Splits text code number)
    (wrong : readKey number = .error e) : parse text = .error e := by
  simp only [parse, splits.splitEquals, wrong]

theorem Splits.parse_of_ok (splits : Splits text code number) {v : Nat}
    (read : read? 16 (unsigned number) = some v) (byte : v ≤ 255) :
    parse text = if v < 16 then .ok (code, .ofNat v) else .error (.noSuchKey v) := by
  simp only [parse, splits.splitEquals, readKey_eq_ok_iff.mpr ⟨read, byte⟩]

theorem parse_of_written (written : Written text code key) : parse text = .ok (code, key) := by
  rcases written with ⟨small, sign, digits, hsign, splits, read⟩
  have hread := read?_unsigned_iff.mpr ⟨sign, digits, hsign, read, rfl⟩
  have hbyte : key.toNat ≤ 255 := Nat.le_trans (Nat.le_of_lt small) (by decide)
  rw [splits.parse_of_ok hread hbyte, if_pos small, UInt8.ofNat_toNat]

theorem parse_of_refused (refused : Refused text e) : parse text = .error e := by
  cases refused with
  | noEquals absent => simp only [parse, splitEquals_eq_none_iff.mpr absent]
  | @notOneChar code number parts first length =>
      have hsplit := splitEquals_eq_some_iff.mpr ⟨parts, first⟩
      rcases code with _ | ⟨c, _ | ⟨d, rest⟩⟩
      · simp only [parse, hsplit]
      · exact absurd rfl length
      · simp only [parse, hsplit]
  | emptyKey splits => exact splits.parse_of_error rfl
  | wrongDigit splits wrong => exact splits.parse_of_error (readKey_eq_error_iff.mpr (.inr wrong))
  | noSuchKey splits read beyond byte =>
      rw [splits.parse_of_ok read byte, if_neg (Nat.not_lt_of_le beyond)]

/-- Every text is a binding or is refused for some reason. -/
theorem written_or_refused (text : String) :
    (∃ code key, Written text code key) ∨ ∃ e, Refused text e := by
  rcases hsplit : splitEquals text.toList with _ | ⟨before, number⟩
  · exact .inr ⟨_, .noEquals (splitEquals_eq_none_iff.mp hsplit)⟩
  rcases splitEquals_eq_some_iff.mp hsplit with ⟨parts, first⟩
  by_cases length : before.length = 1
  · rcases List.length_eq_one_iff.mp length with ⟨code, rfl⟩
    have splits : Splits text code number :=
      ⟨fun same => first (List.mem_singleton.mpr same.symm), parts⟩
    rcases hread : readKey number with e | v
    · rcases readKey_eq_error_iff.mp hread with ⟨rfl, -⟩ | wrong
      · exact .inr ⟨_, .emptyKey splits⟩
      · exact .inr ⟨_, .wrongDigit splits wrong⟩
    · rcases readKey_eq_ok_iff.mp hread with ⟨read, byte⟩
      by_cases small : v < 16
      · rcases read?_unsigned_iff.mp read with ⟨sign, digits, hsign, hdigits, rfl⟩
        have hvalue : (UInt8.ofNat v).toNat = v :=
          UInt8.toNat_ofNat_of_lt' (Nat.lt_trans small (by decide))
        refine .inl ⟨code, .ofNat v, ?_, sign, digits, hsign, splits, ?_⟩
        · rwa [hvalue]
        · rwa [hvalue]
      · exact .inr ⟨_, .noSuchKey splits read (Nat.le_of_not_lt small) byte⟩
  · exact .inr ⟨_, .notOneChar parts first length⟩

end Binding

/-- A text is read as a binding exactly if it is written as one, and every other text is
    refused for the reason that comes first from the left: there is no equals sign, what
    stands before the first one is not one character, there is no number behind it, a
    character of the number is no digit or takes it past a byte, or the byte is no key. -/
theorem bindings_follow_grammar (text : String) :
    (∀ code key, Binding.parse text = .ok (code, key) ↔ Binding.Written text code key) ∧
      ∀ e, Binding.parse text = .error e ↔ Binding.Refused text e := by
  refine ⟨fun code key => ⟨fun accepted => ?_, Binding.parse_of_written⟩,
    fun e => ⟨fun rejected => ?_, Binding.parse_of_refused⟩⟩
  · rcases Binding.written_or_refused text with ⟨code', key', written⟩ | ⟨e, refused⟩
    · cases accepted.symm.trans (Binding.parse_of_written written)
      exact written
    · cases accepted.symm.trans (Binding.parse_of_refused refused)
  · rcases Binding.written_or_refused text with ⟨code, key, written⟩ | ⟨e', refused⟩
    · cases rejected.symm.trans (Binding.parse_of_written written)
    · cases rejected.symm.trans (Binding.parse_of_refused refused)
      exact refused

/-- Signs and zeros are skipped, later equals signs are no digits, and of two faults the
    first is reported. -/
example : Binding.parse "é=+00f" = .ok ('é', 0xF) ∧
    Binding.parse "==1" = .error (.notOneChar "") ∧
    Binding.parse "p==1" = .error .invalidDigit ∧
    Binding.parse "p=0100g" = .error .tooLarge ∧
    Binding.parse "p=g100" = .error .invalidDigit :=
  ⟨rfl, rfl, rfl, rfl, rfl⟩

end ChipEight
