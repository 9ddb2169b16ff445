import ChipEight.Machine.Step

/-!
# Encoding Instructions

The pattern every instruction is listed under, as a function from instructions
back to words, and the proof that decoding is its inverse.

Decoding looks at one digit after another and falls through to `unknown` from
several places, so its own text does not say which words an instruction
claims. `Instruction.word` says that in one line for each: the digits of the
pattern, with the operands in theirs. Decoding gives back exactly what the
pattern was filled with, and is `unknown` exactly for the words no pattern
covers. A statement about an instruction can therefore be read as one about a
word, and the other way round.

Only operands that fit their digits have a pattern to go into. `Valid` says
which do: an address has three digits, and the register of a jump with an
offset is the first of them.

## Main definitions

* `Word.ofDigits`: The word with the given digits.
* `Word.withByte`, `Word.withAddress`: The words that end in a byte and in an
  address.
* `Instruction.word`: The word of an instruction.
* `Instruction.Valid`: Instructions whose operands fit.

## Theorems

* `Word.ofDigits_digits`: A word is made of its digits.
* `Instruction.word_decode`: Encoding what a word decodes to gives the word.
* `Instruction.decode_word`: Decoding what an instruction encodes to gives the
  instruction.
* `Instruction.decode_eq_iff`: A word decodes to an instruction exactly when
  it is that instruction's word.
* `Instruction.decode_eq_unknown_iff`: A word is unknown exactly when it is no
  instruction's word.
* `Machine.execute_word`: Executing the word of an instruction performs it.
-/

namespace ChipEight

namespace Word

/-- The word with the given digits, the most significant first. -/
def ofDigits (a b c d : Nibble) : Word :=
  UInt16.ofNat (a.val * 4096 + b.val * 256 + c.val * 16 + d.val)

/-- The word that begins with two digits and ends in a byte. -/
def withByte (a b : Nibble) (k : UInt8) : Word :=
  ofDigits a b (lowNibble (k >>> 4)) (lowNibble k)

/-- The word that begins with a digit and ends in an address of three. -/
def withAddress (a : Nibble) (target : Address) : Word :=
  ofDigits a (x target) (y target) (n target)

theorem toNat_ofDigits (a b c d : Nibble) :
    (ofDigits a b c d).toNat = a.val * 4096 + b.val * 256 + c.val * 16 + d.val := by
  have ha := a.isLt
  have hb := b.isLt
  have hc := c.isLt
  have hd := d.isLt
  simp only [ofDigits, UInt16.toNat_ofNat']
  omega

theorem val_digit (w : Word) (place : Nat) :
    (digit w place).val = w.toNat >>> (4 * place) % 16 := by
  rw [digit]

theorem toNat_byte (w : Word) : w.byte.toNat = w.toNat % 256 := by
  simp only [byte, UInt16.toNat_toUInt8]

theorem toNat_address (w : Word) : w.address.toNat = w.toNat % 4096 := by
  simpa [address] using Nat.and_two_pow_sub_one_eq_mod w.toNat 12

/-- A number below `2 ^ 16` is the sum of its digits, each at its place. -/
theorem toNat_eq_digits (w : Word) :
    w.toNat = w.family.val * 4096 + w.x.val * 256 + w.y.val * 16 + w.n.val := by
  have hw := w.toNat_lt
  simp only [family, x, y, n, val_digit]
  omega

theorem ofDigits_digits (w : Word) : ofDigits w.family w.x w.y w.n = w := by
  apply UInt16.toNat_inj.mp
  rw [toNat_ofDigits, ← toNat_eq_digits]

@[simp] theorem family_ofDigits (a b c d : Nibble) : (ofDigits a b c d).family = a := by
  apply Fin.ext
  simp only [family, val_digit, toNat_ofDigits]
  omega

@[simp] theorem x_ofDigits (a b c d : Nibble) : (ofDigits a b c d).x = b := by
  apply Fin.ext
  simp only [x, val_digit, toNat_ofDigits]
  omega

@[simp] theorem y_ofDigits (a b c d : Nibble) : (ofDigits a b c d).y = c := by
  apply Fin.ext
  simp only [y, val_digit, toNat_ofDigits]
  omega

@[simp] theorem n_ofDigits (a b c d : Nibble) : (ofDigits a b c d).n = d := by
  apply Fin.ext
  simp only [n, val_digit, toNat_ofDigits]
  omega

theorem ofDigits_eq {a b c d : Nibble} {w : Word} (first : w.family.val = a.val)
    (second : w.x.val = b.val) (third : w.y.val = c.val) (fourth : w.n.val = d.val) :
    ofDigits a b c d = w := by
  rw [← Fin.ext first, ← Fin.ext second, ← Fin.ext third, ← Fin.ext fourth, ofDigits_digits]

@[simp] theorem family_withByte (a b : Nibble) (k : UInt8) : (withByte a b k).family = a :=
  family_ofDigits ..

@[simp] theorem x_withByte (a b : Nibble) (k : UInt8) : (withByte a b k).x = b :=
  x_ofDigits ..

@[simp] theorem byte_withByte (a b : Nibble) (k : UInt8) : (withByte a b k).byte = k := by
  apply UInt8.toNat_inj.mp
  have hk := k.toNat_lt
  simp only [toNat_byte, withByte, toNat_ofDigits, lowNibble, UInt8.toNat_shiftRight]
  simp only [UInt8.toNat_ofNat, Nat.reduceMod, Nat.shiftRight_eq_div_pow, Nat.reducePow]
  omega

theorem withByte_eq {a : Nibble} {w : Word} (first : w.family.val = a.val) :
    withByte a w.x w.byte = w := by
  apply UInt16.toNat_inj.mp
  have hw := toNat_eq_digits w
  have hy := w.y.isLt
  have hn := w.n.isLt
  simp only [withByte, toNat_ofDigits, lowNibble, UInt8.toNat_shiftRight, toNat_byte]
  simp only [UInt8.toNat_ofNat, Nat.reduceMod, Nat.shiftRight_eq_div_pow, Nat.reducePow]
  omega

@[simp] theorem family_withAddress (a : Nibble) (target : Address) :
    (withAddress a target).family = a :=
  family_ofDigits ..

@[simp] theorem x_withAddress (a : Nibble) (target : Address) :
    (withAddress a target).x = x target :=
  x_ofDigits ..

theorem address_withAddress (a : Nibble) (target : Address) (fits : target.toNat < 4096) :
    (withAddress a target).address = target := by
  apply UInt16.toNat_inj.mp
  have ht := toNat_eq_digits target
  have hx := (x target).isLt
  have hy := (y target).isLt
  have hn := (n target).isLt
  simp only [toNat_address, withAddress, toNat_ofDigits]
  omega

/-- An address taken out of a word keeps the digits it had there. -/
theorem x_address (w : Word) : x w.address = w.x := by
  apply Fin.ext
  simp only [x, val_digit, toNat_address]
  omega

theorem withAddress_eq {a : Nibble} {w : Word} (first : w.family.val = a.val) :
    withAddress a w.address = w := by
  apply ofDigits_eq first (congrArg Fin.val (x_address w).symm)
  · simp only [y, val_digit, toNat_address]
    omega
  · simp only [n, val_digit, toNat_address]
    omega

end Word

namespace Instruction

open Word

/-- The word of an instruction: the pattern it is listed under, filled with
    its operands. -/
def word : Instruction → Word
  | idle => ofDigits 0x0 0x0 0x0 0x0
  | clearScreen => ofDigits 0x0 0x0 0xE 0x0
  | ret => ofDigits 0x0 0x0 0xE 0xE
  | scrollRight => ofDigits 0x0 0x0 0xF 0xB
  | scrollLeft => ofDigits 0x0 0x0 0xF 0xC
  | standardResolution => ofDigits 0x0 0x0 0xF 0xE
  | extendedResolution => ofDigits 0x0 0x0 0xF 0xF
  | scrollDown n => ofDigits 0x0 0x0 0xC n
  | scrollUp n => ofDigits 0x0 0x0 0xD n
  | jump a => withAddress 0x1 a
  | call a => withAddress 0x2 a
  | skipIfByte x k => withByte 0x3 x k
  | skipUnlessByte x k => withByte 0x4 x k
  | skipIfSame x y => ofDigits 0x5 x y 0x0
  | setByte x k => withByte 0x6 x k
  | addByte x k => withByte 0x7 x k
  | copy x y => ofDigits 0x8 x y 0x0
  | or x y => ofDigits 0x8 x y 0x1
  | and x y => ofDigits 0x8 x y 0x2
  | xor x y => ofDigits 0x8 x y 0x3
  | add x y => ofDigits 0x8 x y 0x4
  | subtract x y => ofDigits 0x8 x y 0x5
  | shiftRight x y => ofDigits 0x8 x y 0x6
  | subtractFrom x y => ofDigits 0x8 x y 0x7
  | shiftLeft x y => ofDigits 0x8 x y 0xE
  | skipUnlessSame x y => ofDigits 0x9 x y 0x0
  | setIndex a => withAddress 0xA a
  | jumpOffset _ a => withAddress 0xB a
  | random x k => withByte 0xC x k
  | draw x y n => ofDigits 0xD x y n
  | skipIfKey x => ofDigits 0xE x 0x9 0xE
  | skipUnlessKey x => ofDigits 0xE x 0xA 0x1
  | selectPlanes n => ofDigits 0xF n 0x0 0x1
  | readDelay x => ofDigits 0xF x 0x0 0x7
  | awaitKey x => ofDigits 0xF x 0x0 0xA
  | setDelay x => ofDigits 0xF x 0x1 0x5
  | setSound x => ofDigits 0xF x 0x1 0x8
  | addIndex x => ofDigits 0xF x 0x1 0xE
  | glyph x => ofDigits 0xF x 0x2 0x9
  | decimal x => ofDigits 0xF x 0x3 0x3
  | save x => ofDigits 0xF x 0x5 0x5
  | restore x => ofDigits 0xF x 0x6 0x5
  | unknown w => w

/-- Whether the operands of an instruction fit the digits of its pattern. No
    pattern stands for `unknown`. -/
def Valid : Instruction → Prop
  | jump a | call a | setIndex a => a.toNat < 4096
  | jumpOffset x a => a.toNat < 4096 ∧ x = Word.x a
  | unknown _ => False
  | _ => True

theorem decode_word (i : Instruction) (valid : i.Valid) : decode i.word = i := by
  cases i with
  | jump a | call a | setIndex a =>
      simp only [word, decode, family_withAddress, address_withAddress _ a valid]
      rfl
  | jumpOffset x a =>
      rcases valid with ⟨fits, rfl⟩
      simp only [word, decode, family_withAddress, x_withAddress, address_withAddress _ a fits]
      rfl
  | skipIfByte | skipUnlessByte | setByte | addByte | random =>
      simp only [word, decode, family_withByte, x_withByte, byte_withByte]
      rfl
  | unknown w => exact valid.elim
  | idle | clearScreen | ret | scrollRight | scrollLeft => rfl
  | standardResolution | extendedResolution => rfl
  | _ =>
      simp only [word, decode, decodeSystem, decodeArithmetic, decodePeripheral,
        family_ofDigits, x_ofDigits, y_ofDigits, n_ofDigits]
      rfl

theorem word_decodeSystem {w : Word} (first : w.family.val = 0) : (decodeSystem w).word = w := by
  unfold decodeSystem
  split
  · rfl
  · split <;> simp only [word] <;> apply ofDigits_eq <;> first | assumption | rfl | omega

theorem word_decodeArithmetic {w : Word} (first : w.family.val = 8) :
    (decodeArithmetic w).word = w := by
  unfold decodeArithmetic
  split <;> simp only [word] <;> apply ofDigits_eq <;> first | assumption | rfl

theorem word_decodePeripheral {w : Word} (first : w.family.val = 15) :
    (decodePeripheral w).word = w := by
  unfold decodePeripheral
  split <;> simp only [word] <;> apply ofDigits_eq <;> first | assumption | rfl

/-- Encoding what a word decodes to gives the word. -/
theorem word_decode (w : Word) : (decode w).word = w := by
  unfold decode
  split
  -- The families that decoding looks further into.
  case h_1 first => exact word_decodeSystem first
  case h_6 first | h_10 first =>
    split
    · simp only [word]
      apply ofDigits_eq <;> first | assumption | rfl
    · rfl
  case h_9 first => exact word_decodeArithmetic first
  case h_15 first =>
    split <;> simp only [word] <;> apply ofDigits_eq <;> first | assumption | rfl
  case h_16 =>
    apply word_decodePeripheral
    have hfamily := w.family.isLt
    grind
  -- The families of one instruction: an address, digits or a byte.
  case h_2 first | h_3 first | h_11 first | h_12 first => exact withAddress_eq first
  case h_14 first => exact ofDigits_eq first rfl rfl rfl
  all_goals exact withByte_eq (by assumption)

/-- What a word decodes to has operands that fit, unless it is unknown. -/
theorem valid_decode (w : Word) : (decode w).Valid ∨ decode w = unknown w := by
  unfold decode
  split
  case h_1 =>
    unfold decodeSystem
    split
    · exact .inr rfl
    · split <;> first | exact .inl trivial | exact .inr rfl
  case h_2 | h_3 | h_11 =>
    left
    simp only [Valid, toNat_address]
    omega
  case h_12 =>
    refine .inl ⟨?_, (x_address w).symm⟩
    rw [toNat_address]
    omega
  case h_6 | h_10 => split <;> first | exact .inl trivial | exact .inr rfl
  case h_9 =>
    unfold decodeArithmetic
    split <;> first | exact .inl trivial | exact .inr rfl
  case h_15 => split <;> first | exact .inl trivial | exact .inr rfl
  case h_16 =>
    unfold decodePeripheral
    split <;> first | exact .inl trivial | exact .inr rfl
  all_goals exact .inl trivial

theorem decode_eq_iff (w : Word) (i : Instruction) (valid : i.Valid) :
    decode w = i ↔ i.word = w := by
  constructor
  · rintro rfl
    exact word_decode w
  · rintro rfl
    exact decode_word i valid

theorem decode_eq_unknown_iff (w v : Word) :
    decode w = unknown v ↔ v = w ∧ ∀ i : Instruction, i.Valid → i.word ≠ w := by
  constructor
  · intro h
    have hv : v = w := by
      rw [← word_decode w, h]
      rfl
    refine ⟨hv, fun i valid hi => ?_⟩
    rw [← hi, decode_word i valid] at h
    rw [h] at valid
    exact valid
  · rintro ⟨rfl, none⟩
    rcases valid_decode v with valid | h
    · exact absurd (word_decode v) (none _ valid)
    · exact h

end Instruction

theorem Machine.execute_word (m : Machine) (i : Instruction) (valid : i.Valid) :
    (m.execute i.word).2 = (m.perform i).2 := by
  change (m.perform (.decode i.word)).2 = _
  rw [Instruction.decode_word i valid]

end ChipEight
