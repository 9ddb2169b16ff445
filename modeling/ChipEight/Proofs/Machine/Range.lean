import ChipEight.Rom
import ChipEight.Proofs.Machine.Step

/-!
# Addresses in Range

The program counter and the return addresses are kept in sixteen bits, though
memory has no more than twelve bits of addresses. What moves the counter wraps
it first, and what is pushed is a counter, so the other four bits are never
set. `Memory.InRange` says so. A counter in range is what an instruction that
waits relies on: it goes back over the two bytes that the fetch went forward,
and ends where it began only if both moves wrap at the same place.

## Main definitions

* `Memory.InRange`: The counter and all return addresses lie within memory.

## Theorems

* `Memory.inRange_blank`, `Memory.inRange_ofRom`: Fresh memory is in range.
* `Machine.inRange_perform`: Every instruction keeps the addresses in range.
-/

namespace ChipEight

/-- The program counter and all return addresses lie within memory. -/
structure Memory.InRange (m : Memory) : Prop where
  counter : m.counter.toNat < 4096
  stack : ∀ a ∈ m.stack, a.toNat < 4096

theorem toNat_wrapAddress_lt (a : Address) : (wrapAddress a).toNat < 4096 := by
  rw [toNat_wrapAddress]
  exact Nat.mod_lt _ (by decide)

theorem toNat_wrapAddress_add (a b : Address) :
    (wrapAddress (a + b)).toNat = (a.toNat + b.toNat) % 4096 := by
  rw [toNat_wrapAddress, UInt16.toNat_add]
  omega

namespace Memory

theorem toNat_advance (m : Memory) :
    m.advance.counter.toNat = (m.counter.toNat + 2) % 4096 :=
  toNat_wrapAddress_add m.counter 2

theorem InRange.advance {m : Memory} (range : m.InRange) : m.advance.InRange :=
  ⟨toNat_wrapAddress_lt _, range.stack⟩

theorem InRange.writeBlock {m : Memory} (range : m.InRange) (a : Address) (bytes : List UInt8) :
    (m.writeBlock a bytes).InRange := by
  rw [writeBlock_eq]
  exact ⟨range.counter, range.stack⟩

theorem inRange_blank : blank.InRange := by
  have hempty : ({} : Memory).InRange := ⟨by decide, fun a h => absurd h List.not_mem_nil⟩
  exact hempty.writeBlock fontAddress font

theorem inRange_ofRom (rom : Rom) : (ofRom rom).InRange := by
  have hprogram := inRange_blank.writeBlock programStart rom.bytes
  exact ⟨hprogram.counter, hprogram.stack⟩

end Memory

namespace Machine

variable {m : Machine}

theorem successor_lt (range : m.memory.InRange) (i : Instruction) :
    (i.successor m).toNat < 4096 := by
  cases hskip : i.condition? m with
  | some b =>
      rw [Instruction.successor_of_condition hskip]
      split
      · exact toNat_wrapAddress_lt _
      · exact range.counter
  | none =>
      cases i with
      | jump | call | jumpOffset => exact toNat_wrapAddress_lt _
      | ret =>
          rw [Instruction.successor_ret]
          split
          · exact range.counter
          · exact toNat_wrapAddress_lt _
      | awaitKey =>
          rw [Instruction.successor_awaitKey]
          split
          · exact toNat_wrapAddress_lt _
          · exact range.counter
      | skipIfByte | skipUnlessByte | skipIfSame | skipUnlessSame => cases hskip
      | skipIfKey | skipUnlessKey => cases hskip
      | _ => exact range.counter

theorem stackAfter_lt (range : m.memory.InRange) (i : Instruction) :
    ∀ a ∈ i.stackAfter m, a.toNat < 4096 := by
  intro a ha
  cases i with
  | call =>
      rcases List.mem_cons.mp ha with rfl | hold
      · exact range.counter
      · exact range.stack a hold
  | ret => exact range.stack a (List.mem_of_mem_tail ha)
  | _ => exact range.stack a ha

theorem inRange_perform (range : m.memory.InRange) (i : Instruction) :
    (m.perform i).2.memory.InRange where
  counter := by
    rw [perform_counter]
    exact successor_lt range i
  stack := by
    rw [perform_eq]
    exact stackAfter_lt range i

theorem inRange_step (range : m.memory.InRange) : m.step.2.memory.InRange :=
  inRange_perform (m := m.fetched) range.advance m.next

end Machine

end ChipEight
