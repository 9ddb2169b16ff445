import ChipEight.Proofs.Checked.Arithmetic
import ChipEight.Proofs.Machine.Range

/-!
# Memory without Failure

The accesses to memory by operations that can fail.

Registers are looked up by the low digit of a byte and bytes of memory by the
low twelve bits of an address, so a place that was masked is always there. Where
addresses are counted up they count around. Two things are left. The distance of
a word from the first one of a stretch is a product that does not count around,
so there is a limit to how many words can be taken. And nothing masks the length
of the program: it is taken for a stretch of memory, and that there is one is a
condition on the memory.

## Main definitions

* `Memory.regChecked`, `Memory.setRegChecked`, `Memory.setFlagChecked`:
  Registers.
* `Memory.readChecked`, `Memory.writeChecked`, `Memory.wordAtChecked`,
  `Memory.fetchChecked`: Bytes and words.
* `Memory.wordsFromChecked`: A stretch of memory as instruction words.
* `Memory.writeBlockChecked`, `Memory.saveChecked`, `Memory.restoreChecked`:
  Bytes in a row.
* `Memory.romBytesChecked`: The program.
* `Memory.tickTimersChecked`: The timers.

## Theorems

* `Memory.regChecked_eq` and others of that form: None of it fails, and all of it
  does what it should.
* `Memory.wordsFromChecked_eq`: How many words can be taken.
* `Memory.romBytesChecked_eq`: The program can be taken out if it is where it
  should be.
-/

namespace ChipEight

namespace Memory

open Checked

/-! ### Registers -/

/-- What a register holds. -/
def regChecked (m : Memory) (x : UInt8) : Checked UInt8 :=
  element m.registers (x &&& 0xF).toNat

/-- Replaces one register. -/
def setRegChecked (m : Memory) (x value : UInt8) : Checked Memory := do
  return { m with registers := ← replaced m.registers (x &&& 0xF).toNat value }

/-- Replaces the flag register. -/
def setFlagChecked (m : Memory) (value : UInt8) : Checked Memory := do
  return { m with registers := ← replaced m.registers 0xF value }

theorem toNat_toByte_masked : ∀ x : Register, (Nibble.toByte x &&& 0xF).toNat = x.val := by
  decide

@[simp] theorem regChecked_eq (m : Memory) (x : Register) :
    m.regChecked (Nibble.toByte x) = .ok (m.reg x) := by
  rw [regChecked, toNat_toByte_masked]
  exact element_of_lt m.registers x

@[simp] theorem setRegChecked_eq (m : Memory) (x : Register) (value : UInt8) :
    m.setRegChecked (Nibble.toByte x) value = .ok (m.setReg x value) := by
  rw [setRegChecked, toNat_toByte_masked, replaced_of_lt]
  rfl

@[simp] theorem setFlagChecked_eq (m : Memory) (value : UInt8) :
    m.setFlagChecked value = .ok (m.setFlag value) :=
  rfl

/-! ### Bytes -/

/-- The byte at an address. -/
def readChecked (m : Memory) (a : Address) : Checked UInt8 :=
  element m.ram (a &&& addressMask).toNat

/-- Replaces the byte at an address. -/
def writeChecked (m : Memory) (a : Address) (value : UInt8) : Checked Memory := do
  return { m with ram := ← replaced m.ram (a &&& addressMask).toNat value }

/-- The instruction word at an address. -/
def wordAtChecked (m : Memory) (a : Address) : Checked Word := do
  let left ← m.readChecked a
  let right ← m.readChecked (a + 1)
  return .ofBytes left right

/-- The word at the program counter, and the memory with the counter moved past
    it. -/
def fetchChecked (m : Memory) : Checked (Word × Memory) := do
  return (← m.wordAtChecked m.counter, m.advance)

/-- A number of words from an address on, each with its address. Twice the number of
    a word is an address of its own, which has to fit. -/
def wordsFromChecked (m : Memory) (start : Address) (count : Nat) :
    Checked (List (Address × Word)) :=
  (List.range count).mapM fun k => do
    let past ← product 2 (UInt16.ofNat k)
    let a := wrapAddress (start + past)
    return (a, ← m.wordAtChecked a)

@[simp] theorem readChecked_eq (m : Memory) (a : Address) : m.readChecked a = .ok (m.read a) :=
  element_of_lt m.ram (cellOf a)

@[simp] theorem writeChecked_eq (m : Memory) (a : Address) (value : UInt8) :
    m.writeChecked a value = .ok (m.write a value) := by
  have hreplaced : replaced m.ram (a &&& addressMask).toNat value = _ :=
    replaced_of_lt m.ram (cellOf a) value
  rw [writeChecked, hreplaced]
  rfl

@[simp] theorem wordAtChecked_eq (m : Memory) (a : Address) :
    m.wordAtChecked a = .ok (m.wordAt a) := by
  simp only [wordAtChecked, readChecked_eq, ok_bind, pure_eq_ok, wordAt]

@[simp] theorem fetchChecked_eq (m : Memory) : m.fetchChecked = .ok m.fetch := by
  simp only [fetchChecked, wordAtChecked_eq, ok_bind, pure_eq_ok, fetch]

theorem product_two {k : Nat} (fits : k < 32768) :
    product 2 (UInt16.ofNat k) = .ok (UInt16.ofNat (2 * k)) := by
  have hk : (UInt16.ofNat k).toNat = k :=
    UInt16.toNat_ofNat_of_lt' (Nat.lt_trans fits (by decide))
  have htwo : (2 : Address).toNat = 2 := rfl
  rw [product_of_lt (by rw [htwo, hk]; omega), UInt16.ofNat_mul]
  rfl

theorem wordAfterChecked_eq (m : Memory) (start : Address) {k : Nat} (fits : k < 32768) :
    (do
      let past ← product 2 (UInt16.ofNat k)
      let a := wrapAddress (start + past)
      return (a, ← m.wordAtChecked a)) =
      (.ok (wrapAddress (start + UInt16.ofNat (2 * k)),
        m.wordAt (wrapAddress (start + UInt16.ofNat (2 * k)))) : Checked (Address × Word)) := by
  simp only [product_two fits, wordAtChecked_eq, ok_bind, pure_eq_ok]

theorem wordsFromChecked_eq (m : Memory) (start : Address) {count : Nat} (fits : count ≤ 32768) :
    m.wordsFromChecked start count = .ok (m.wordsFrom start count) :=
  mapM_of_ok fun _ hk =>
    m.wordAfterChecked_eq start (Nat.lt_of_lt_of_le (List.mem_range.mp hk) fits)

/-! ### Bytes in a row -/

/-- Writes bytes in a row, beginning at an address. -/
def writeBlockChecked (m : Memory) (a : Address) (bytes : List UInt8) : Checked Memory :=
  bytes.zipIdx.foldlM (fun m (byte, k) => m.writeChecked (a + UInt16.ofNat k) byte) m

/-- Stores the registers from V0 to VX, each after it was looked up. -/
def saveChecked (m : Memory) (x : Register) : Checked Memory :=
  (List.range (x.val + 1)).foldlM (fun current k => do
    let byte ← current.regChecked (UInt8.ofNat k)
    current.writeChecked (m.index + UInt16.ofNat k) byte) m

/-- Fetches the registers from V0 to VX, one after the other. -/
def restoreChecked (m : Memory) (x : Register) : Checked Memory :=
  (List.range (x.val + 1)).foldlM (fun current k => do
    let byte ← current.readChecked (m.index + UInt16.ofNat k)
    current.setRegChecked (UInt8.ofNat k) byte) m

theorem writeBlockChecked_eq (m : Memory) (a : Address) (bytes : List UInt8) :
    m.writeBlockChecked a bytes = .ok (m.writeBlock a bytes) :=
  foldlM_of_ok (fun m x _ => m.writeChecked_eq (a + UInt16.ofNat x.2) x.1) m

theorem writeBlock_concat (m : Memory) (a : Address) (bytes : List UInt8) (byte : UInt8) :
    m.writeBlock a (bytes ++ [byte]) =
      (m.writeBlock a bytes).write (a + UInt16.ofNat bytes.length) byte := by
  simp only [writeBlock, List.zipIdx_append, List.foldl_append, Nat.zero_add]
  rfl

theorem setRegisters_concat (m : Memory) {bytes : List UInt8} {k : Nat}
    (length : bytes.length = k) (fits : k < 16) (byte : UInt8) :
    m.setRegisters (bytes ++ [byte]) = (m.setRegisters bytes).setReg ⟨k, fits⟩ byte := by
  subst length
  refine congrArg (fun registers => { m with registers := registers }) (Vector.ext fun i hi => ?_)
  rw [Vector.getElem_ofFn, Vector.getElem_set, getElem_setRegisters m bytes i hi,
    List.getD_eq_getElem?_getD, List.getD_eq_getElem?_getD]
  rcases Nat.lt_trichotomy i bytes.length with before | rfl | after
  · rw [if_neg (Nat.ne_of_gt before), List.getElem?_append_left before]
  · rw [if_pos rfl, List.getElem?_concat_length, Option.getD_some]
  · rw [if_neg (Nat.ne_of_lt after), List.getElem?_eq_none (Nat.le_of_lt after),
      List.getElem?_eq_none (by rw [List.length_append]; exact after)]

theorem setRegisters_nil (m : Memory) : m.setRegisters [] = m :=
  congrArg (fun registers => { m with registers := registers })
    (Vector.ext fun i hi => getElem_setRegisters m [] i hi)

/-- The registers up to some place are stored. They stay what they are, so it
    makes no difference that each is looked up in the memory of its turn. -/
theorem saveChecked_eq (m : Memory) (x : Register) :
    m.saveChecked x = .ok (m.writeBlock m.index (m.registersUpTo x)) := by
  let stored : Nat → Memory := fun k => m.writeBlock m.index (m.registers.toList.take k)
  refine foldlM_range (g := stored) rfl fun k hk => ?_
  have fits : k < 16 := Nat.lt_of_lt_of_le hk x.isLt
  have hlength : k < m.registers.toList.length := by rw [Vector.length_toList]; exact fits
  have hkept : (stored k).reg ⟨k, fits⟩ = m.reg ⟨k, fits⟩ := by
    rw [show stored k = _ from writeBlock_eq ..]
    rfl
  have hreg : (stored k).regChecked (UInt8.ofNat k) = .ok (m.reg ⟨k, fits⟩) :=
    ((stored k).regChecked_eq ⟨k, fits⟩).trans (congrArg Except.ok hkept)
  have hnext : stored (k + 1) = (stored k).write (m.index + UInt16.ofNat k) (m.reg ⟨k, fits⟩) := by
    rw [show stored (k + 1) = m.writeBlock m.index (m.registers.toList.take (k + 1)) from rfl,
      List.take_succ_eq_append_getElem hlength, writeBlock_concat, List.length_take,
      Nat.min_eq_left (Nat.le_of_lt hlength)]
    rfl
  rw [hreg, ok_bind, writeChecked_eq, hnext]

/-- The registers up to some place are fetched. Where they come from stays what it
    is. -/
theorem restoreChecked_eq (m : Memory) (x : Register) :
    m.restoreChecked x = .ok (m.setRegisters (m.readBlock m.index (x.val + 1))) := by
  let fetched : Nat → Memory := fun k => m.setRegisters (m.readBlock m.index k)
  refine foldlM_range (g := fetched) m.setRegisters_nil fun k hk => ?_
  have fits : k < 16 := Nat.lt_of_lt_of_le hk x.isLt
  let byte := m.read (m.index + UInt16.ofNat k)
  have hread : (fetched k).readChecked (m.index + UInt16.ofNat k) = .ok byte := readChecked_eq _ _
  have hnext : fetched (k + 1) = (fetched k).setReg ⟨k, fits⟩ byte := by
    rw [show fetched (k + 1) = m.setRegisters (m.readBlock m.index (k + 1)) from rfl,
      readBlock_succ, setRegisters_concat m (length_readBlock ..) fits]
  rw [hread, ok_bind, hnext]
  exact (fetched k).setRegChecked_eq ⟨k, fits⟩ byte

/-! ### The program and the timers -/

/-- The bytes of the program loaded. -/
def romBytesChecked (m : Memory) : Checked (List UInt8) := do
  let first := programStart.toNat
  slice m.ram first (← size (first + m.romLength))

/-- One less, or zero. Nothing is taken away from zero. -/
def countDownChecked (timer : UInt8) : Checked UInt8 :=
  if timer = 0 then .ok 0 else do return .ofNat (← difference timer.toNat 1)

/-- Lets both timers count down by one. -/
def tickTimersChecked (m : Memory) : Checked Memory := do
  return { m with delay := ← countDownChecked m.delay, sound := ← countDownChecked m.sound }

theorem romBytesChecked_eq {m : Memory} (fits : m.romLength ≤ maxRomSize) :
    m.romBytesChecked = .ok m.romBytes := by
  have hfirst : programStart.toNat = 512 := rfl
  have hmax : maxRomSize = 3584 := rfl
  rw [romBytesChecked, size_of_lt (by omega), ok_bind, slice, if_pos (by omega), romBytes,
    Nat.add_sub_cancel_left]

theorem countDownChecked_eq (timer : UInt8) :
    countDownChecked timer = .ok (countDown timer) := by
  unfold countDownChecked countDown
  split
  · rfl
  · rename_i running
    have hpositive : timer.toNat ≠ 0 := fun h => running (UInt8.toNat_inj.mp h)
    have hone : 1 ≤ timer.toNat := Nat.one_le_iff_ne_zero.mpr hpositive
    rw [difference_of_le hone, ok_bind, pure_eq_ok, UInt8.ofNat_sub hone, UInt8.ofNat_toNat]
    rfl

@[simp] theorem tickTimersChecked_eq (m : Memory) : m.tickTimersChecked = .ok m.tickTimers := by
  simp only [tickTimersChecked, countDownChecked_eq, ok_bind, pure_eq_ok, tickTimers]

end Memory

end ChipEight
