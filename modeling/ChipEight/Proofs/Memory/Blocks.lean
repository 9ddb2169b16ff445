import ChipEight.Memory

/-!
# Blocks of Memory

Writing bytes in a row is a fold over numbered bytes. `writeBlock_cons` turns
it into a recursion on the bytes, which is the form the other facts are proved
in: what a block leaves alone is what every single write leaves alone. Nothing
but the bytes of memory can change, and of these only the ones the addresses of
the block wrap to.

## Theorems

* `cellOf_add`: Which byte of memory an address and an offset stand for.
* `Memory.writeBlock_cons`: A block is its first byte and the block after it.
* `Memory.writeBlock_eq`: Writing a block replaces bytes of memory and nothing
  else.
* `Memory.ram_writeBlock_congr`: The result depends on the bytes alone.
* `Memory.read_writeBlock_of_ne`: An address outside the block keeps its byte.
* `Memory.read_writeBlock_of_lt`: An address of the block holds the byte that was
  written there, unless the block is longer than memory.
* `Memory.ram_writeBlock`: Every byte of memory after a block that does not wrap.
* `Memory.length_readBlock`, `Memory.length_registersUpTo`: How many bytes a
  block of memory and the first registers make.
* `Memory.readBlock_cons`, `Memory.readBlock_succ`: A block that is read, cut at
  either end.
* `Memory.writeBlock_readBlock`: Writing back what was read changes nothing.
-/

namespace ChipEight

theorem add_ofNat_zero (a : Address) : a + UInt16.ofNat 0 = a :=
  UInt16.add_zero a

theorem add_ofNat_succ (a : Address) (k : Nat) :
    a + UInt16.ofNat (k + 1) = a + 1 + UInt16.ofNat k := by
  rw [Nat.add_comm, UInt16.ofNat_add, UInt16.add_assoc]
  rfl

/-- The byte of memory that an address and an offset stand for. Addresses wrap
    in sixteen bits before they wrap into memory, which makes no difference. -/
theorem cellOf_add (a : Address) (k : Nat) :
    cellOf (a + UInt16.ofNat k) = Fin.ofNat 4096 (a.toNat + k) := by
  apply Fin.ext
  simp only [cellOf, toNat_wrapAddress, Fin.ofNat, UInt16.toNat_add, UInt16.toNat_ofNat']
  omega

theorem cellOf_ofNat (i : Fin 4096) : cellOf (UInt16.ofNat i.val) = i := by
  apply Fin.ext
  simp only [cellOf, toNat_wrapAddress, UInt16.toNat_ofNat']
  omega

namespace Memory

@[simp] theorem writeBlock_nil (m : Memory) (a : Address) : m.writeBlock a [] = m :=
  rfl

/-- A block is its first byte and the block after it. Addresses count up in
    sixteen bits on both sides, so this holds across either wrap. -/
theorem writeBlock_cons (m : Memory) (a : Address) (byte : UInt8) (bytes : List UInt8) :
    m.writeBlock a (byte :: bytes) = (m.write a byte).writeBlock (a + 1) bytes := by
  simp only [writeBlock, List.zipIdx_cons, List.foldl_cons, List.zipIdx_succ, List.foldl_map,
    add_ofNat_zero, add_ofNat_succ]

/-- Writing a block replaces bytes of memory and nothing else. The right-hand
    side is the memory from before with new bytes in it, which makes every
    other part of it equal by computation. -/
theorem writeBlock_eq (m : Memory) (a : Address) (bytes : List UInt8) :
    m.writeBlock a bytes = { m with ram := (m.writeBlock a bytes).ram } := by
  induction bytes generalizing m a with
  | nil => rfl
  | cons byte rest ih =>
      rw [writeBlock_cons, ih]
      rfl

/-- The bytes after a block was written depend on the bytes before it and on
    nothing else. -/
theorem ram_writeBlock_congr {m m' : Memory} (same : m'.ram = m.ram) (a : Address)
    (bytes : List UInt8) : (m'.writeBlock a bytes).ram = (m.writeBlock a bytes).ram := by
  induction bytes generalizing m m' a with
  | nil => exact same
  | cons byte rest ih =>
      rw [writeBlock_cons, writeBlock_cons]
      refine ih ?_ (a + 1)
      simp only [write, same]

/-- An address that wraps to none of the places of the block keeps its byte. -/
theorem read_writeBlock_of_ne (m : Memory) (a b : Address) (bytes : List UInt8)
    (outside : ∀ k < bytes.length, cellOf (a + UInt16.ofNat k) ≠ cellOf b) :
    (m.writeBlock a bytes).read b = m.read b := by
  induction bytes generalizing m a with
  | nil => rfl
  | cons byte rest ih =>
      have hfirst := outside 0 (by simp only [List.length_cons, Nat.zero_lt_succ])
      rw [add_ofNat_zero] at hfirst
      rw [writeBlock_cons, ih, read_write, if_neg hfirst]
      intro k hk
      rw [← add_ofNat_succ]
      exact outside (k + 1) (by simpa only [List.length_cons, Nat.succ_lt_succ_iff] using hk)

/-- No address of a block wraps to the place of another one, as long as the
    block is not longer than memory. Each then holds the byte written there. -/
theorem read_writeBlock_of_lt (m : Memory) (a : Address) {bytes : List UInt8}
    (fits : bytes.length ≤ 4096) {k : Nat} (inside : k < bytes.length) :
    (m.writeBlock a bytes).read (a + UInt16.ofNat k) = bytes[k] := by
  induction bytes generalizing m a k with
  | nil => exact absurd inside (Nat.not_lt_zero k)
  | cons byte rest ih =>
      simp only [List.length_cons] at fits inside
      rw [writeBlock_cons]
      cases k with
      | zero =>
          -- The first byte is written first, and the rest of the block must miss it.
          rw [add_ofNat_zero, read_writeBlock_of_ne, read_write, if_pos rfl, List.getElem_cons_zero]
          intro j hj same
          have hfirst : (cellOf a).val = a.toNat % 4096 := toNat_wrapAddress a
          have hlater : (cellOf (a + 1 + UInt16.ofNat j)).val = (a.toNat + (j + 1)) % 4096 := by
            rw [← add_ofNat_succ, cellOf_add, Fin.ofNat]
          rw [same] at hlater
          omega
      | succ k =>
          rw [add_ofNat_succ, List.getElem_cons_succ]
          exact ih _ (a + 1) (by omega) (by omega)

/-- Every byte of memory is read by the address of its place. -/
theorem ram_eq_read (m : Memory) (i : Fin 4096) :
    m.ram.get i = m.read (UInt16.ofNat i.val) := by
  simp only [read, cellOf_ofNat]
  rfl

/-- Every byte of memory after a block was written, if the block does not reach
    past the end of memory. -/
theorem ram_writeBlock (m : Memory) (a : Address) {bytes : List UInt8}
    (fits : a.toNat + bytes.length ≤ 4096) (i : Fin 4096) :
    (m.writeBlock a bytes).ram.get i =
      if a.toNat ≤ i.val ∧ i.val < a.toNat + bytes.length then bytes.getD (i.val - a.toNat) 0
      else m.ram.get i := by
  rw [ram_eq_read, ram_eq_read]
  by_cases inside : a.toNat ≤ i.val ∧ i.val < a.toNat + bytes.length
  · have hoffset : i.val - a.toNat < bytes.length := by omega
    have haddress : a + UInt16.ofNat (i.val - a.toNat) = UInt16.ofNat i.val := by
      rw [← UInt16.toNat_inj, UInt16.toNat_add, UInt16.toNat_ofNat', UInt16.toNat_ofNat']
      omega
    rw [if_pos inside, ← haddress, read_writeBlock_of_lt m a (by omega) hoffset,
      List.getD_eq_getElem?_getD, List.getElem?_eq_getElem hoffset, Option.getD_some]
  · rw [if_neg inside, read_writeBlock_of_ne]
    intro k hk same
    rw [cellOf_add, cellOf_ofNat] at same
    have hplace : (a.toNat + k) % 4096 = i.val := congrArg Fin.val same
    omega

@[simp] theorem length_readBlock (m : Memory) (a : Address) (count : Nat) :
    (m.readBlock a count).length = count := by
  simp only [readBlock, List.length_map, List.length_range]

@[simp] theorem length_registersUpTo (m : Memory) (x : Register) :
    (m.registersUpTo x).length = x.val + 1 := by
  have hx := x.isLt
  simp only [registersUpTo, List.length_take, Vector.length_toList]
  omega

theorem getElem_setRegisters (m : Memory) (bytes : List UInt8) (i : Nat) (hi : i < 16) :
    (m.setRegisters bytes).registers[i] = bytes.getD i (m.reg ⟨i, hi⟩) :=
  Vector.getElem_ofFn hi

theorem readBlock_cons (m : Memory) (a : Address) (count : Nat) :
    m.readBlock a (count + 1) = m.read a :: m.readBlock (a + 1) count := by
  simp only [readBlock, List.range_succ_eq_map, List.map_cons, List.map_map, Function.comp_def,
    add_ofNat_zero, Nat.succ_eq_add_one, add_ofNat_succ]

theorem readBlock_succ (m : Memory) (a : Address) (count : Nat) :
    m.readBlock a (count + 1) = m.readBlock a count ++ [m.read (a + UInt16.ofNat count)] := by
  rw [readBlock, List.range_succ, List.map_append]
  rfl

theorem write_read (m : Memory) (a : Address) : m.write a (m.read a) = m :=
  congrArg (fun ram => { m with ram := ram }) (Vector.set_getElem_self ..)

/-- Writing back what was read changes nothing. No byte of the block is other than
    it was read, also if the block is so long that it comes around to itself. -/
theorem writeBlock_readBlock (m : Memory) (a : Address) (count : Nat) :
    m.writeBlock a (m.readBlock a count) = m := by
  induction count generalizing a with
  | zero => rfl
  | succ count ih => rw [readBlock_cons, writeBlock_cons, write_read, ih]

end Memory

end ChipEight
