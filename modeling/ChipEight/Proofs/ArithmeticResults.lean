import ChipEight.Proofs.Encoding

/-!
# Results of Arithmetic

What the arithmetic instructions leave in the registers, as numbers, whatever
registers they are given.

The instructions with a flag write two registers, VX and VF, and read one or two,
and nothing keeps these apart: X and Y may be the same, and either may be F. Both
operands are read before anything is written, so what is written is computed from
the registers as they were. What is left then depends on X alone. For any X but F
the result and the flag are both there, also if Y is F and the flag has replaced
an operand. For X = F they meet, and the later of the two writes stays: the flag,
unless it is a difference and the dialect has these written last. `Written` says
this once for both orders, and an instruction only adds its numbers to it.

The instructions compute with bytes that wrap, and take their flag from a
comparison of bytes or from a bit. In the statements these are quotients and
remainders of the numbers that the registers hold.

## Main definitions

* `Machine.Written`: The registers after a result and a flag were written.

## Theorems

* `Machine.written_assignThenFlag`, `Machine.written_flagThenAssign`: The two
  orders of writing.
* `Machine.written_difference`: Differences, in the order of the dialect.
* `arithmetic_results`: Every arithmetic instruction, for any registers.
-/

namespace ChipEight

/-! ### Bytes as numbers -/

/-- A sum that wraps is below its operands, and no other sum is. -/
theorem toNat_carry (a b : UInt8) :
    (if a + b < a then (1 : UInt8) else 0).toNat = (a.toNat + b.toNat) / 256 := by
  have ha := a.toNat_lt
  have hb := b.toNat_lt
  have hwraps : a + b < a ↔ 256 ≤ a.toNat + b.toNat := by
    rw [UInt8.lt_iff_toNat_lt, UInt8.toNat_add]
    omega
  by_cases wraps : 256 ≤ a.toNat + b.toNat
  · rw [if_pos (hwraps.mpr wraps), UInt8.toNat_one]
    omega
  · rw [if_neg (fun h => wraps (hwraps.mp h)), UInt8.toNat_zero]
    omega

theorem toNat_difference (a b : UInt8) : (a - b).toNat = (256 + a.toNat - b.toNat) % 256 := by
  have hb := b.toNat_lt
  rw [UInt8.toNat_sub]
  omega

theorem toNat_isLess (a b : UInt8) :
    (if b < a then (1 : UInt8) else 0).toNat = if b.toNat < a.toNat then 1 else 0 :=
  apply_ite UInt8.toNat ..

theorem toNat_lowBit (a : UInt8) : (a &&& 1).toNat = a.toNat % 2 := by
  rw [UInt8.toNat_and, UInt8.toNat_one, Nat.and_one_is_mod]

theorem toNat_highBit (a : UInt8) : (a >>> 7).toNat = a.toNat / 128 :=
  (UInt8.toNat_shiftRight a 7).trans (Nat.shiftRight_eq_div_pow ..)

theorem toNat_half (a : UInt8) : (a >>> 1).toNat = a.toNat / 2 :=
  (UInt8.toNat_shiftRight a 1).trans (Nat.shiftRight_eq_div_pow ..)

theorem toNat_double (a : UInt8) : (a <<< 1).toNat = 2 * a.toNat % 256 := by
  have hshift : (a <<< 1).toNat = a.toNat <<< 1 % 256 := UInt8.toNat_shiftLeft a 1
  rw [hshift, Nat.shiftLeft_eq, Nat.mul_comm, Nat.pow_one]

namespace Machine

/-! ### Two writes -/

/-- What the registers hold after a result was put into VX and a flag into VF, one
    after the other. -/
structure Written (before after : Machine) (x : Register) (result flag : Nat)
    (resultLast : Bool) : Prop where
  apart : x ≠ flagRegister →
    (after.reg x).toNat = result ∧ (after.reg flagRegister).toNat = flag
  /-- In VF the two meet, and the later one is left. -/
  meeting : x = flagRegister →
    (after.reg flagRegister).toNat = if resultLast then result else flag
  others : ∀ r, r ≠ x → r ≠ flagRegister → after.reg r = before.reg r

variable (m : Machine) (x y : Register)

theorem written_assignThenFlag (value flag : UInt8) :
    m.Written (m.assignThenFlag x value flag).2 x value.toNat flag.toNat false where
  apart other := by
    rw [assignThenFlag, reg_setFlag_of_ne _ other, reg_setReg_self, reg_setFlag_self]
    exact ⟨rfl, rfl⟩
  meeting _ := by
    rw [assignThenFlag, reg_setFlag_self]
    rfl
  others r hx hflag := by
    rw [assignThenFlag, reg_setFlag_of_ne _ hflag, reg_setReg_of_ne _ hx]

theorem written_flagThenAssign (value flag : UInt8) :
    m.Written (m.flagThenAssign x value flag).2 x value.toNat flag.toNat true where
  apart other := by
    rw [flagThenAssign, reg_setReg_self, reg_setReg_of_ne _ other.symm, reg_setFlag_self]
    exact ⟨rfl, rfl⟩
  meeting same := by
    rw [flagThenAssign, ← same, reg_setReg_self]
    rfl
  others r hx hflag := by
    rw [flagThenAssign, reg_setReg_of_ne _ hx, reg_setFlag_of_ne _ hflag]

theorem written_difference (minuend subtrahend : UInt8) :
    m.Written (m.difference x minuend subtrahend).2 x
      ((256 + minuend.toNat - subtrahend.toNat) % 256)
      (if subtrahend.toNat < minuend.toNat then 1 else 0) m.dialect.flagFirst := by
  rw [← toNat_difference, ← toNat_isLess, difference]
  cases m.dialect.flagFirst with
  | false => exact m.written_assignThenFlag x _ _
  | true => exact m.written_flagThenAssign x _ _

/-! ### The instructions -/

theorem written_add :
    m.Written (m.perform (.add x y)).2 x (((m.reg x).toNat + (m.reg y).toNat) % 256)
      (((m.reg x).toNat + (m.reg y).toNat) / 256) false := by
  have hsum : (m.reg x + m.reg y).toNat = ((m.reg x).toNat + (m.reg y).toNat) % 256 :=
    UInt8.toNat_add ..
  rw [← hsum, ← toNat_carry]
  exact m.written_assignThenFlag x _ _

/-- What a shift reads, as a number. -/
theorem toNat_reg_shiftSource :
    (m.reg (m.dialect.shiftSource x y)).toNat =
      if m.dialect.shiftUsesY then (m.reg y).toNat else (m.reg x).toNat := by
  rw [Dialect.shiftSource]
  split <;> rfl

theorem written_shiftRight :
    m.Written (m.perform (.shiftRight x y)).2 x
      ((m.reg (m.dialect.shiftSource x y)).toNat / 2)
      ((m.reg (m.dialect.shiftSource x y)).toNat % 2) false := by
  rw [← toNat_half, ← toNat_lowBit]
  exact m.written_assignThenFlag x _ _

theorem written_shiftLeft :
    m.Written (m.perform (.shiftLeft x y)).2 x
      (2 * (m.reg (m.dialect.shiftSource x y)).toNat % 256)
      ((m.reg (m.dialect.shiftSource x y)).toNat / 128) false := by
  rw [← toNat_double, ← toNat_highBit]
  exact m.written_assignThenFlag x _ _

theorem reg_addByte (k : UInt8) :
    ((m.perform (.addByte x k)).2.reg x).toNat = ((m.reg x).toNat + k.toNat) % 256 ∧
      ∀ r ≠ x, (m.perform (.addByte x k)).2.reg r = m.reg r := by
  constructor
  · rw [perform, assign, reg_setReg_self]
    exact UInt8.toNat_add ..
  · intro r other
    rw [perform, assign, reg_setReg_of_ne _ other]

end Machine

/-- The arithmetic instructions, for any two registers, the same or not and VF or
    not, in any dialect. VF is not touched by `7XKK` unless it is the register to
    add to. -/
theorem arithmetic_results (m : Machine) (x y : Register) (k : UInt8) :
    let vx := (m.reg x).toNat
    let vy := (m.reg y).toNat
    let s := if m.dialect.shiftUsesY then vy else vx
    let flagFirst := m.dialect.flagFirst
    m.Written (m.execute (.ofDigits 0x8 x y 0x4)).2 x
        ((vx + vy) % 256) ((vx + vy) / 256) false ∧
      m.Written (m.execute (.ofDigits 0x8 x y 0x5)).2 x
        ((256 + vx - vy) % 256) (if vy < vx then 1 else 0) flagFirst ∧
      m.Written (m.execute (.ofDigits 0x8 x y 0x7)).2 x
        ((256 + vy - vx) % 256) (if vx < vy then 1 else 0) flagFirst ∧
      m.Written (m.execute (.ofDigits 0x8 x y 0x6)).2 x (s / 2) (s % 2) false ∧
      m.Written (m.execute (.ofDigits 0x8 x y 0xE)).2 x (2 * s % 256) (s / 128) false ∧
      ((m.execute (.withByte 0x7 x k)).2.reg x).toNat = (vx + k.toNat) % 256 ∧
      ∀ r ≠ x, (m.execute (.withByte 0x7 x k)).2.reg r = m.reg r := by
  have hadd := m.execute_word (.add x y) trivial
  have hsubtract := m.execute_word (.subtract x y) trivial
  have hsubtractFrom := m.execute_word (.subtractFrom x y) trivial
  have hright := m.execute_word (.shiftRight x y) trivial
  have hleft := m.execute_word (.shiftLeft x y) trivial
  have hbyte := m.execute_word (.addByte x k) trivial
  -- The words of these instructions are the patterns with their digits filled in.
  simp only [Instruction.word] at hadd hsubtract hsubtractFrom hright hleft hbyte
  simp only [hadd, hsubtract, hsubtractFrom, hright, hleft, hbyte,
    ← m.toNat_reg_shiftSource x y]
  exact ⟨m.written_add x y, m.written_difference x (m.reg x) (m.reg y),
    m.written_difference x (m.reg y) (m.reg x), m.written_shiftRight x y,
    m.written_shiftLeft x y, m.reg_addByte x k⟩

-- The difference of VF and another register: by default VF ends as the flag.
example (flagFirst : Bool) :
    let m : Machine :=
      { memory := (Memory.blank.setReg 0xF 0x30).setReg 2 0x10
        display := {}
        keypad := .initial
        generator := .ofSeed 0
        dialect := { flagFirst } }
    (m.execute 0x8F25).2.reg flagRegister = if flagFirst then 0x20 else 1 := by
  cases flagFirst <;> decide +kernel

end ChipEight
