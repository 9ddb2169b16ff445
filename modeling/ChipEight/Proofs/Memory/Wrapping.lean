import ChipEight.Proofs.Memory.Blocks

/-!
# Addresses that Wrap Alike

An address has sixteen bits and memory has room for twelve of them. Whatever
reads or writes memory looks at an address only after wrapping it, so two
addresses that wrap alike cannot be told apart by what they lead to.

Counting is where this needs an argument. Addresses count up and down in all
sixteen bits and wrap around there, at a place that memory knows nothing of.
Two addresses that wrap alike still do so after the same number is added to
both, or taken from both, because the size of memory divides the number of
addresses; `wrapAddress_add_congr` and `wrapAddress_sub_congr` are that fact,
and everything about blocks and words follows from it.

## Theorems

* `wrapAddress_eq_iff`: Two addresses wrap alike exactly when they are congruent
  modulo the size of memory.
* `wrapAddress_sub_add`: Going back undoes going forward, up to one wrap.
* `Memory.wordAt_congr`, `Memory.readBlock_congr`, `Memory.writeBlock_congr`:
  Addresses that wrap alike lead to the same words and blocks.
-/

namespace ChipEight

variable {a b : Address}

theorem wrapAddress_eq_iff : wrapAddress a = wrapAddress b ↔ a.toNat % 4096 = b.toNat % 4096 := by
  rw [← UInt16.toNat_inj, toNat_wrapAddress, toNat_wrapAddress]

theorem wrapAddress_wrapAddress (a : Address) : wrapAddress (wrapAddress a) = wrapAddress a := by
  rw [wrapAddress_eq_iff, toNat_wrapAddress, Nat.mod_mod]

theorem wrapAddress_of_lt (fits : a.toNat < 4096) : wrapAddress a = a := by
  rw [← UInt16.toNat_inj, toNat_wrapAddress, Nat.mod_eq_of_lt fits]

theorem wrapAddress_add_congr (alike : wrapAddress a = wrapAddress b) (k : Address) :
    wrapAddress (a + k) = wrapAddress (b + k) := by
  rw [wrapAddress_eq_iff] at alike ⊢
  rw [UInt16.toNat_add, UInt16.toNat_add]
  omega

theorem wrapAddress_sub_congr (alike : wrapAddress a = wrapAddress b) (k : Address) :
    wrapAddress (a - k) = wrapAddress (b - k) := by
  rw [wrapAddress_eq_iff] at alike ⊢
  have hk := k.toNat_lt
  rw [UInt16.toNat_sub, UInt16.toNat_sub]
  omega

/-- Going back undoes going forward, also where the way forward wrapped. -/
theorem wrapAddress_sub_add (a k : Address) :
    wrapAddress (wrapAddress (a + k) - k) = wrapAddress a := by
  rw [wrapAddress_sub_congr (wrapAddress_wrapAddress (a + k)), UInt16.add_sub_cancel]

theorem cellOf_congr (alike : wrapAddress a = wrapAddress b) : cellOf a = cellOf b := by
  apply Fin.ext
  simp only [cellOf, alike]

namespace Memory

variable (m : Memory)

theorem read_congr (alike : wrapAddress a = wrapAddress b) : m.read a = m.read b := by
  simp only [read, cellOf_congr alike]

theorem write_congr (alike : wrapAddress a = wrapAddress b) (value : UInt8) :
    m.write a value = m.write b value := by
  simp only [write, cellOf_congr alike]

theorem wordAt_congr (alike : wrapAddress a = wrapAddress b) : m.wordAt a = m.wordAt b := by
  rw [wordAt, m.read_congr alike, m.read_congr (wrapAddress_add_congr alike 1), wordAt]

theorem readBlock_congr (alike : wrapAddress a = wrapAddress b) (count : Nat) :
    m.readBlock a count = m.readBlock b count := by
  apply List.map_congr_left
  intro k _
  exact m.read_congr (wrapAddress_add_congr alike _)

theorem writeBlock_congr (alike : wrapAddress a = wrapAddress b) (bytes : List UInt8) :
    m.writeBlock a bytes = m.writeBlock b bytes := by
  induction bytes generalizing m a b with
  | nil => rfl
  | cons byte rest ih =>
      rw [writeBlock_cons, writeBlock_cons, m.write_congr alike,
        ih _ (wrapAddress_add_congr alike 1)]

end Memory

end ChipEight
