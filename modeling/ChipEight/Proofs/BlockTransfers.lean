import ChipEight.Proofs.Encoding
import ChipEight.Proofs.Memory.Blocks

/-!
# Registers to Memory and Back

`FX55` stores the registers V0 to VX from I on and `FX65` fetches them from there,
and each undoes the other if I is put back in between.

The addresses wrap twice, in sixteen bits as they are counted up and in twelve as
memory is accessed, and the byte that V0 goes to may come after the one for VX.
What the round trips need is that no two of the bytes meet. There are at most
sixteen of them, far fewer than there is memory, and `Memory.read_writeBlock_of_lt`
is the place where this is used. The way from memory to the registers and back
does not even need that, as it writes every byte over itself
(`Memory.writeBlock_readBlock`).

Where I is left depends on the dialect. Both instructions find their way by the I
from before they move it, so a round trip takes place wherever the dialect leaves
it.

## Main definitions

* `Machine.setBack`: A machine with I put back and other values in the registers.

## Theorems

* `Machine.reg_restore`: What the registers hold after they were fetched.
* `Machine.reg_restore_of_saved`: They hold what was stored.
* `Machine.ram_save_of_restored`: Storing what was fetched changes no memory.
* `Machine.toNat_indexAfter`: Where I is left.
* `Machine.ram_decimal`: Every byte of memory after the digits of a register were
  stored.
* `block_transfers_round_trip`: All of this, for the instructions by their words.
-/

namespace ChipEight

namespace Memory

variable (m : Memory) (x r : Register)

theorem read_of_ram {m m' : Memory} (same : m'.ram = m.ram) (a : Address) :
    m'.read a = m.read a := by
  simp only [read, same]

theorem getD_registersUpTo (inside : r ≤ x) (default : UInt8) :
    (m.registersUpTo x).getD r.val default = m.reg r := by
  have hlast : r.val < x.val + 1 := Nat.lt_succ_of_le inside
  have hlength : r.val < m.registers.toList.length := by
    rw [Vector.length_toList]
    exact r.isLt
  rw [registersUpTo, List.getD_eq_getElem?_getD, List.getElem?_take_of_lt hlast,
    List.getElem?_eq_getElem hlength, Option.getD_some, Vector.getElem_toList]
  rfl

theorem registersUpTo_setRegisters {bytes : List UInt8} (length : bytes.length = x.val + 1) :
    (m.setRegisters bytes).registersUpTo x = bytes := by
  have hx := x.isLt
  refine List.ext_getElem ((length_registersUpTo ..).trans length.symm) fun i hi hbyte => ?_
  simp only [registersUpTo, List.getElem_take, Vector.getElem_toList]
  rw [getElem_setRegisters m bytes i (by omega), List.getD_eq_getElem?_getD,
    List.getElem?_eq_getElem hbyte, Option.getD_some]

end Memory

namespace Machine

/-- A machine with I put back and with other values in the registers. -/
def setBack (m : Machine) (index : Address) (registers : Vector UInt8 16) : Machine :=
  { m with memory := { m.memory with index := index, registers := registers } }

variable (m : Machine) (x : Register)

section

variable (index : Address) (registers : Vector UInt8 16)

theorem index_setBack : (m.setBack index registers).memory.index = index :=
  rfl

theorem ram_setBack : (m.setBack index registers).memory.ram = m.memory.ram :=
  rfl

theorem registersUpTo_setBack :
    (m.setBack index m.memory.registers).memory.registersUpTo x = m.memory.registersUpTo x :=
  rfl

theorem reg_setBack (r : Register) : (m.setBack index registers).reg r = registers.get r :=
  rfl

end

theorem ram_save :
    (m.perform (.save x)).2.memory.ram =
      (m.memory.writeBlock m.memory.index (m.memory.registersUpTo x)).ram :=
  rfl

/-! ### Registers -/

theorem registers_restore :
    (m.perform (.restore x)).2.memory.registers =
      (m.memory.setRegisters (m.memory.readBlock m.memory.index (x.val + 1))).registers :=
  rfl

/-- The registers up to VX hold what memory held from I on. -/
theorem reg_restore (r : Register) :
    (m.perform (.restore x)).2.reg r =
      if r ≤ x then m.memory.read (m.memory.index + UInt16.ofNat r.val) else m.reg r := by
  have hreg : (m.perform (.restore x)).2.reg r =
      (m.memory.readBlock m.memory.index (x.val + 1)).getD r.val (m.reg r) := by
    rw [reg, Memory.reg, registers_restore]
    exact Memory.getElem_setRegisters m.memory _ r.val r.isLt
  rw [hreg, List.getD_eq_getElem?_getD, Memory.readBlock, List.getElem?_map]
  by_cases inside : r ≤ x
  · rw [if_pos inside, List.getElem?_range (Nat.lt_succ_of_le inside), Option.map_some,
      Option.getD_some]
  · have hbeyond : (List.range (x.val + 1)).length ≤ r.val := by
      rw [List.length_range]
      exact Nat.lt_of_not_le inside
    rw [if_neg inside, List.getElem?_eq_none hbeyond, Option.map_none, Option.getD_none]

theorem reg_save (r : Register) : (m.perform (.save x)).2.reg r = m.reg r := by
  change (m.save x).2.reg r = m.reg r
  unfold save
  simp only
  rw [Memory.writeBlock_eq]
  rfl

/-- What was stored is fetched again, whatever the registers were changed to. -/
theorem reg_restore_of_saved (registers : Vector UInt8 16) (r : Register) :
    (((m.perform (.save x)).2.setBack m.memory.index registers).perform (.restore x)).2.reg r =
      if r ≤ x then m.reg r else registers.get r := by
  rw [reg_restore, index_setBack, reg_setBack, Memory.read_of_ram (ram_setBack ..),
    Memory.read_of_ram (m.ram_save x)]
  by_cases inside : r ≤ x
  · have hlength := m.memory.length_registersUpTo x
    have hx := x.isLt
    have hplace : r.val < (m.memory.registersUpTo x).length := by
      rw [hlength]
      exact Nat.lt_succ_of_le inside
    rw [if_pos inside, if_pos inside, Memory.read_writeBlock_of_lt _ _ (by omega) hplace,
      reg, ← m.memory.getD_registersUpTo x r inside 0, List.getD_eq_getElem?_getD,
      List.getElem?_eq_getElem hplace, Option.getD_some]
  · rw [if_neg inside, if_neg inside]

/-! ### Memory -/

theorem ram_restore : (m.perform (.restore x)).2.memory.ram = m.memory.ram := by
  change (m.restore x).2.memory.ram = m.memory.ram
  simp only [restore, Memory.setRegisters]

/-- What was fetched is stored over itself. -/
theorem ram_save_of_restored :
    (((m.perform (.restore x)).2.setBack m.memory.index
      (m.perform (.restore x)).2.memory.registers).perform (.save x)).2.memory.ram =
      m.memory.ram := by
  -- The registers that are stored are the bytes that were fetched.
  have hregisters : (m.perform (.restore x)).2.memory.registersUpTo x =
      m.memory.readBlock m.memory.index (x.val + 1) := by
    rw [Memory.registersUpTo, registers_restore, ← Memory.registersUpTo,
      m.memory.registersUpTo_setRegisters x (Memory.length_readBlock ..)]
  rw [ram_save, registersUpTo_setBack, hregisters, index_setBack,
    Memory.ram_writeBlock_congr (ram_setBack ..), Memory.ram_writeBlock_congr (m.ram_restore x),
    Memory.writeBlock_readBlock]

/-! ### The index register -/

theorem toNat_indexAfter :
    (m.indexAfter x).toNat =
      if m.dialect.indexAdvances then (m.memory.index.toNat + x.val + 1) % 65536
      else m.memory.index.toNat := by
  have hx := x.isLt
  unfold indexAfter
  split
  · rw [UInt16.toNat_add, UInt16.toNat_ofNat']
    omega
  · rfl

/-! ### Decimal digits -/

theorem ram_decimal_eq :
    (m.perform (.decimal x)).2.memory.ram =
      (m.memory.writeBlock m.memory.index
        [m.reg x / 100, m.reg x / 10 % 10, m.reg x % 10]).ram :=
  rfl

/-- The digits stand at three places one after another, and every other byte stays. -/
theorem ram_decimal (place : Fin 4096) :
    (m.perform (.decimal x)).2.memory.ram.get place =
      if place.val = (m.memory.index.toNat + 2) % 4096 then m.reg x % 10
      else if place.val = (m.memory.index.toNat + 1) % 4096 then m.reg x / 10 % 10
      else if place.val = m.memory.index.toNat % 4096 then m.reg x / 100
      else m.memory.ram.get place := by
  have hplace : ∀ k, cellOf (m.memory.index + UInt16.ofNat k) = place ↔
      place.val = (m.memory.index.toNat + k) % 4096 := by
    intro k
    rw [cellOf_add, Fin.ext_iff, eq_comm]
    rfl
  have hfirst : cellOf m.memory.index = place ↔ place.val = m.memory.index.toNat % 4096 := by
    rw [← add_ofNat_zero m.memory.index, hplace 0, add_ofNat_zero, Nat.add_zero]
  have hthird : m.memory.index + 1 + 1 = m.memory.index + UInt16.ofNat 2 := UInt16.add_assoc ..
  -- The last of the three writes is the first that decides what a place holds.
  rw [Memory.ram_eq_read, Memory.read_of_ram (m.ram_decimal_eq x), Memory.writeBlock_cons,
    Memory.writeBlock_cons, Memory.writeBlock_cons, Memory.writeBlock_nil]
  simp only [Memory.read_write, cellOf_ofNat, Memory.ram_eq_read, hthird, hplace 2, hfirst,
    show cellOf (m.memory.index + 1) = place ↔ _ from hplace 1]

theorem decimal_digits (v : UInt8) :
    v / 100 < 10 ∧ v / 10 % 10 < 10 ∧ v % 10 < 10 ∧
      100 * (v / 100).toNat + 10 * (v / 10 % 10).toNat + (v % 10).toNat = v.toNat := by
  have hv := v.toNat_lt
  have hten : (10 : UInt8).toNat = 10 := rfl
  have hhundred : (100 : UInt8).toNat = 100 := rfl
  simp only [UInt8.lt_iff_toNat_lt, UInt8.toNat_div, UInt8.toNat_mod, hten, hhundred]
  omega

/-! ### The instructions by their words -/

theorem execute_save :
    (m.execute (.ofDigits 0xF x 0x5 0x5)).2 = (m.perform (.save x)).2 :=
  m.execute_word (.save x) trivial

theorem execute_restore :
    (m.execute (.ofDigits 0xF x 0x6 0x5)).2 = (m.perform (.restore x)).2 :=
  m.execute_word (.restore x) trivial

theorem execute_decimal :
    (m.execute (.ofDigits 0xF x 0x3 0x3)).2 = (m.perform (.decimal x)).2 :=
  m.execute_word (.decimal x) trivial

end Machine

/-- The registers up to VX are stored from I on and fetched from there, for any X, any
    I and any dialect. With I put back in between, fetching gives back what was stored
    to whatever registers there are now, and storing what was fetched changes no
    memory. The digits of a register take up three bytes of memory. -/
theorem block_transfers_round_trip (m : Machine) (x : Register) :
    let index := m.memory.index
    let saved := (m.execute (.ofDigits 0xF x 0x5 0x5)).2
    let restored := (m.execute (.ofDigits 0xF x 0x6 0x5)).2
    let converted := (m.execute (.ofDigits 0xF x 0x3 0x3)).2
    let left := if m.dialect.indexAdvances then (index.toNat + x.val + 1) % 65536 else index.toNat
    (∀ r, saved.reg r = m.reg r) ∧
      (∀ registers r,
        ((saved.setBack index registers).execute (.ofDigits 0xF x 0x6 0x5)).2.reg r =
          if r ≤ x then m.reg r else registers.get r) ∧
      ((restored.setBack index restored.memory.registers).execute
        (.ofDigits 0xF x 0x5 0x5)).2.memory.ram = m.memory.ram ∧
      saved.memory.index.toNat = left ∧ restored.memory.index.toNat = left ∧
      ∃ a b c : UInt8, (a < 10 ∧ b < 10 ∧ c < 10 ∧
          100 * a.toNat + 10 * b.toNat + c.toNat = (m.reg x).toNat) ∧
        ∀ place : Fin 4096, converted.memory.ram.get place =
          if place.val = (index.toNat + 2) % 4096 then c
          else if place.val = (index.toNat + 1) % 4096 then b
          else if place.val = index.toNat % 4096 then a
          else m.memory.ram.get place := by
  simp only [Machine.execute_save, Machine.execute_restore, Machine.execute_decimal]
  exact ⟨m.reg_save x, m.reg_restore_of_saved x, m.ram_save_of_restored x, m.toNat_indexAfter x,
    m.toNat_indexAfter x, _, _, _, Machine.decimal_digits _, m.ram_decimal x⟩

/-- Registers stored across the end of all addresses, and so of memory, come back. -/
example (indexAdvances : Bool) :
    let m : Machine :=
      { memory := { (Memory.blank.setReg 0 0x12).setReg 1 0x34 with index := 0xFFFF }
        display := {}
        keypad := .initial
        generator := .ofSeed 0
        dialect := { indexAdvances } }
    let saved := (m.execute 0xF155).2
    saved.memory.read 0xFFF = 0x12 ∧ saved.memory.read 0x000 = 0x34 ∧
      ((saved.setBack 0xFFFF (.replicate 16 0)).execute 0xF165).2.reg 1 = 0x34 := by
  cases indexAdvances <;> decide +kernel

end ChipEight
