import ChipEight.Proofs.Consistency
import ChipEight.Proofs.Loading

/-!
# Programs in Memory

Dumps and listings show a stretch of memory, from the place that programs are loaded
to, as long as the last program was. What stands there need not be the program any
more, since programs may write over themselves.

`Memory.Holds` says of a list of bytes that it is such a stretch, by the places of
memory alone. There is one list of each length that memory holds at a place, so two
ways of collecting the bytes come to the same list as soon as memory holds what each
of them collects. Right after a program was loaded one of them is the program
itself, and the zeros after it belong to the stretch as well.

A stretch has to end within memory. Nothing that a host can do makes a program
longer than the room there is for one, which is what `Memory.Obtained.romLength_le`
adds up.

## Main definitions

* `Memory.Holds`: Bytes stand in memory from a place on.
* `Memory.Loaded`: The ways to load a program.
* `Memory.Obtained`: Memory as a host comes by it.

## Theorems

* `Memory.Holds.unique`: Memory holds one list of bytes of each length at a place.
* `Memory.holds_readBlock`, `Memory.holds_romBytes`: Blocks that are read, and the
  program loaded, are held.
* `Memory.JustLoaded.holds`, `Memory.Loaded.justLoaded`: What is held right after
  loading.
* `Memory.Obtained.romLength_le`: No program is longer than the room for it.
-/

namespace ChipEight

namespace Memory

/-- The bytes stand in memory one after another from a place on, all of them before
    its end. -/
structure Holds (m : Memory) (start : Nat) (bytes : List UInt8) : Prop where
  inside : start + bytes.length ≤ 4096
  byte : ∀ place : Fin 4096, start ≤ place.val → place.val < start + bytes.length →
    bytes[place.val - start]? = some (m.ram.get place)

/-- Memory right after the bytes of a program were loaded into it, by any of the
    three ways there are. -/
inductive Loaded (program : List UInt8) : Memory → Prop where
  | alone {m : Memory} (accepted : Memory.load program = .ok m) : Loaded program m
  | inPlace {old m : Memory} (accepted : (Memory.loadInto program).run.run old = (.ok (), m)) :
    Loaded program m
  | console {c e : Console} (accepted : (Console.loadInPlace program).run.run c = (.ok (), e)) :
    Loaded program e.machine.memory

/-- Memory as a host comes by it: that of a reachable console, or one that a program
    was loaded into. A host may change everything in it but the length of the
    program. -/
inductive Obtained : Memory → Prop where
  | console {c : Console} (reached : c.Reachable) : Obtained c.machine.memory
  | loaded {program : List UInt8} {m : Memory} (loaded : Loaded program m) : Obtained m
  | changed {m m' : Memory} (obtained : Obtained m) (kept : m'.romLength = m.romLength) :
    Obtained m'

variable {m : Memory} {start : Nat} {first second program : List UInt8}

/-! ### Stretches of memory -/

theorem Holds.unique (one : m.Holds start first) (other : m.Holds start second)
    (length : first.length = second.length) : first = second := by
  apply List.ext_getElem?
  intro i
  by_cases inside : i < first.length
  · have hend := one.inside
    let place : Fin 4096 := ⟨start + i, by omega⟩
    have hfirst := one.byte place (Nat.le_add_right ..) (Nat.add_lt_add_left inside _)
    have hsecond := other.byte place (Nat.le_add_right ..)
      (Nat.add_lt_add_left (length ▸ inside) _)
    rw [show place.val - start = i from Nat.add_sub_cancel_left ..] at hfirst hsecond
    rw [hfirst, hsecond]
  · rw [List.getElem?_eq_none (Nat.le_of_not_lt inside),
      List.getElem?_eq_none (Nat.le_of_not_lt (length ▸ inside))]

theorem holds_readBlock {a : Address} {count : Nat} (inside : a.toNat + count ≤ 4096) :
    m.Holds a.toNat (m.readBlock a count) := by
  refine ⟨by rwa [length_readBlock], fun place before after => ?_⟩
  rw [length_readBlock] at after
  have haddress : a + UInt16.ofNat (place.val - a.toNat) = UInt16.ofNat place.val := by
    rw [← UInt16.toNat_inj, UInt16.toNat_add, UInt16.toNat_ofNat', UInt16.toNat_ofNat']
    omega
  rw [readBlock, List.getElem?_map, List.getElem?_range (by omega), Option.map_some, haddress,
    ram_eq_read]

theorem length_romBytes (fits : m.romLength ≤ maxRomSize) : m.romBytes.length = m.romLength := by
  have hmax : maxRomSize = 3584 := rfl
  have hstart : programStart.toNat = 512 := rfl
  rw [romBytes, List.length_take, List.length_drop, Vector.length_toList]
  omega

theorem holds_romBytes (fits : m.romLength ≤ maxRomSize) : m.Holds 0x200 m.romBytes := by
  have hmax : maxRomSize = 3584 := rfl
  have hlength := length_romBytes fits
  refine ⟨by omega, fun place before after => ?_⟩
  have hplace : programStart.toNat + (place.val - 0x200) = place.val :=
    Nat.add_sub_cancel' before
  have hram : place.val < m.ram.toList.length := by
    rw [Vector.length_toList]
    exact place.isLt
  rw [romBytes, List.getElem?_take_of_lt (by omega), List.getElem?_drop, hplace,
    List.getElem?_eq_getElem hram, Vector.getElem_toList]
  rfl

/-! ### Programs just loaded -/

/-- Behind a program there are zeros, as many as memory has room for. -/
theorem JustLoaded.holds (loaded : m.JustLoaded program) {zeros : Nat}
    (inside : 0x200 + program.length + zeros ≤ 4096) :
    m.Holds 0x200 (program ++ .replicate zeros 0) := by
  have hlength : (program ++ List.replicate zeros (0 : UInt8)).length =
      program.length + zeros := by
    rw [List.length_append, List.length_replicate]
  refine ⟨by omega, fun place before after => ?_⟩
  rw [loaded.ram, imageByte]
  by_cases within : place.val < 0x200 + program.length
  · have hplace : place.val - 0x200 < program.length := by omega
    rw [if_pos ⟨before, within⟩, List.getElem?_append_left hplace, List.getD_eq_getElem?_getD,
      List.getElem?_eq_getElem hplace, Option.getD_some]
  · rw [if_neg fun h => within h.2, if_neg (by omega), List.getElem?_append_right (by omega),
      List.getElem?_replicate, if_pos (by omega)]

theorem Loaded.justLoaded (loaded : Loaded program m) :
    m.JustLoaded program ∧ 1 ≤ program.length ∧ program.length ≤ 3584 := by
  have hrom : ∃ rom, rom.bytes = program ∧ m = ofRom rom := by
    rcases Rom.ofBytes_cases program with ⟨rom, hrom, hbytes, -⟩ | ⟨reason, hreason, -⟩
    · refine ⟨rom, hbytes, ?_⟩
      cases loaded with
      | alone accepted =>
          rw [load, hrom] at accepted
          exact (Except.ok.inj accepted).symm
      | inPlace accepted =>
          rw [loadInto_run, hrom] at accepted
          exact (congrArg Prod.snd accepted).symm
      | console accepted =>
          rw [Console.loadInPlace_run, hrom] at accepted
          exact congrArg (fun r : Except LoadError Unit × Console => r.2.machine.memory)
            accepted.symm
    · -- Bytes that are refused are not loaded in any of the ways.
      cases loaded with
      | alone accepted =>
          rw [load, hreason] at accepted
          cases accepted
      | inPlace accepted =>
          rw [loadInto_run, hreason] at accepted
          cases congrArg Prod.fst accepted
      | console accepted =>
          rw [Console.loadInPlace_run, hreason] at accepted
          cases congrArg Prod.fst accepted
  rcases hrom with ⟨rom, rfl, rfl⟩
  exact ⟨justLoaded_ofRom rom, List.length_pos_iff.mpr rom.nonempty, rom.fits⟩

theorem Obtained.romLength_le (obtained : m.Obtained) : m.romLength ≤ maxRomSize := by
  induction obtained with
  | console reached => exact reached.romLength_le
  | loaded loaded =>
      rcases loaded.justLoaded with ⟨hloaded, -, hfits⟩
      rw [hloaded.romLength]
      exact hfits
  | changed _ kept ih => rwa [kept]

end Memory

end ChipEight
