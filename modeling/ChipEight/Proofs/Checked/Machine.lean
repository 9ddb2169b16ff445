import ChipEight.Machine.Step
import ChipEight.Proofs.Checked.Display
import ChipEight.Proofs.Checked.Memory
import ChipEight.Proofs.Encoding

/-!
# Instructions without Failure

Every instruction by operations that can fail.

Most instructions look up registers by a digit of their word and do arithmetic
that counts around, and nothing can happen to them. Four compute with addresses
that do not: a jump adds a register to its operand, a glyph is found by its
number, the rows of a second plane follow those of the first, and the index moves
past the last register. Each of the sums is small because of where its parts
come from. For the jump that is the decoding of the word, which leaves its
operand no more than three digits, so this is a condition on the instruction.

## Main definitions

* `Keypad.isPressedChecked`: Keys.
* `Machine.regChecked`, `Machine.changeChecked`, `Machine.assignChecked`,
  `Machine.differenceChecked`: Registers.
* `Machine.drawChecked`: Sprites on the selected planes.
* `Machine.performChecked`, `Machine.executeChecked`, `Machine.stepChecked`:
  Instructions, words and steps.
* `Machine.tickChecked`: The sixtieth of a second.

## Theorems

* `Machine.drawChecked_eq`: Drawing on both planes does not fail.
* `Machine.performChecked_eq`: Nor does any instruction whose operands fit.
* `Machine.executeChecked_eq`: Nor does any word.
-/

namespace ChipEight

open Checked

/-- Whether the key named by a byte is pressed. -/
def Keypad.isPressedChecked (k : Keypad) (key : UInt8) : Checked Bool :=
  element k.pressed (key &&& 0xF).toNat

theorem toNat_lowNibble (b : UInt8) : (b &&& 0xF).toNat = (lowNibble b).val := by
  simpa [lowNibble] using Nat.and_two_pow_sub_one_eq_mod b.toNat 4

@[simp] theorem Keypad.isPressedChecked_eq (k : Keypad) (key : UInt8) :
    k.isPressedChecked key = .ok (k.isPressed (lowNibble key)) := by
  rw [isPressedChecked, toNat_lowNibble]
  exact element_of_lt k.pressed (lowNibble key)

namespace Machine

/-! ### Registers -/

/-- What a register holds. -/
def regChecked (m : Machine) (x : Register) : Checked UInt8 :=
  m.memory.regChecked (Nibble.toByte x)

/-- Puts a value into a register. -/
def setRegChecked (m : Machine) (x : Register) (value : UInt8) : Checked Machine := do
  return { m with memory := ← m.memory.setRegChecked (Nibble.toByte x) value }

/-- Puts a value into the flag register. -/
def setFlagChecked (m : Machine) (value : UInt8) : Checked Machine := do
  return { m with memory := ← m.memory.setFlagChecked value }

/-- Puts a value into a register, and tells what it held. -/
def changeChecked (m : Machine) (x : Register) (value : UInt8) :
    Checked (Assignment × Machine) := do
  let before ← m.regChecked x
  return (⟨x, before, value⟩, ← m.setRegChecked x value)

/-- Puts a value into a register and reports it. -/
def assignChecked (m : Machine) (x : Register) (value : UInt8) :
    Checked (Outcome × Machine) := do
  let (change, m) ← m.changeChecked x value
  return (.note (.assigned change), m)

/-- Puts a value into a register, then a flag into VF, and reports both. -/
def assignThenFlagChecked (m : Machine) (x : Register) (value flag : UInt8) :
    Checked (Outcome × Machine) := do
  let (change, m) ← m.changeChecked x value
  return (.note (.assignedWithFlag change flag), ← m.setFlagChecked flag)

/-- Puts a difference into a register, and its flag into VF, in the order of the
    dialect. -/
def differenceChecked (m : Machine) (x : Register) (minuend subtrahend : UInt8) :
    Checked (Outcome × Machine) := do
  let result := minuend - subtrahend
  let flag := if subtrahend < minuend then 1 else 0
  if m.dialect.flagFirst then
    let m ← m.setFlagChecked flag
    let (change, m) ← m.changeChecked x result
    return (.note (.assignedWithFlag change flag), m)
  else m.assignThenFlagChecked x result flag

variable (m : Machine)

@[simp] theorem regChecked_eq (x : Register) : m.regChecked x = .ok (m.reg x) :=
  m.memory.regChecked_eq x

@[simp] theorem setFlagChecked_eq (value : UInt8) :
    m.setFlagChecked value = .ok (m.setFlag value) :=
  rfl

@[simp] theorem changeChecked_eq (x : Register) (value : UInt8) :
    m.changeChecked x value = .ok (m.assignment x value, m.setReg x value) := by
  simp only [changeChecked, regChecked_eq, setRegChecked, Memory.setRegChecked_eq, ok_bind,
    pure_eq_ok]
  rfl

@[simp] theorem assignChecked_eq (x : Register) (value : UInt8) :
    m.assignChecked x value = .ok (m.assign x value) := by
  simp only [assignChecked, changeChecked_eq, ok_bind, pure_eq_ok, assign]

@[simp] theorem assignThenFlagChecked_eq (x : Register) (value flag : UInt8) :
    m.assignThenFlagChecked x value flag = .ok (m.assignThenFlag x value flag) := by
  simp only [assignThenFlagChecked, changeChecked_eq, setFlagChecked_eq, ok_bind, pure_eq_ok,
    assignThenFlag]

@[simp] theorem differenceChecked_eq (x : Register) (minuend subtrahend : UInt8) :
    m.differenceChecked x minuend subtrahend = .ok (m.difference x minuend subtrahend) := by
  rw [differenceChecked, difference]
  split
  · rw [setFlagChecked_eq, ok_bind, changeChecked_eq, ok_bind]
    rfl
  · rw [assignThenFlagChecked_eq]

/-! ### Sprites -/

/-- The rows of a sprite, so many bytes past I. -/
def spriteRowsChecked (memory : Memory) (past : Address) (rows : Nat) : Checked (List UInt8) :=
  (List.range rows).mapM fun row => do
    memory.readChecked (memory.index + (← sum past (UInt16.ofNat row)))

/-- Draws a sprite on one plane, and moves past the bytes that were used up. -/
def drawPlaneChecked (memory : Memory) (x y rows : Nat) (state : Bool × Address × Display)
    (p : Plane) : Checked (Bool × Address × Display) := do
  let (collision, past, d) := state
  let sprite ← spriteRowsChecked memory past rows
  let (hit, d) ← d.drawSpriteChecked p x y sprite
  return (collision || hit, ← sum past (UInt16.ofNat rows), d)

/-- Draws the sprite at I with its corner at (VX, VY). The flag is taken away
    first, and set again if there was a collision. -/
def drawChecked (x y : Register) (n : Nibble) : Checked (Outcome × Machine) := do
  let column ← m.regChecked x
  let row ← m.regChecked y
  let memory ← m.memory.setFlagChecked 0
  let (collision, _, display) ← m.display.selection.planes.foldlM
    (drawPlaneChecked memory column.toNat row.toNat n.val) (false, 0, m.display)
  let memory ← (if collision then memory.setFlagChecked 1 else pure memory)
  return (.redraw (.drawn column row collision), { m with memory := memory, display := display })

variable (memory : Memory) {x y turn : Nat} {n : Nibble}

theorem toNat_past (n : Nibble) (early : turn ≤ 1) {row : Nat} (inside : row ≤ n.val) :
    (UInt16.ofNat (turn * n.val)).toNat + (UInt16.ofNat row).toNat < 65536 := by
  -- Two planes use up thirty rows at most.
  have hpast : turn * n.val ≤ 1 * n.val := Nat.mul_le_mul_right n.val early
  rw [UInt16.toNat_ofNat', UInt16.toNat_ofNat']
  omega

/-- The rows for a second plane begin where those for the first end. -/
theorem spriteRowsChecked_eq (n : Nibble) (early : turn ≤ 1) :
    spriteRowsChecked memory (UInt16.ofNat (turn * n.val)) n.val =
      .ok (spriteRows memory turn n.val) := by
  refine mapM_of_ok fun row hrow => ?_
  have hfits := toNat_past n early (Nat.le_of_lt (List.mem_range.mp hrow))
  rw [sum_of_lt hfits, ok_bind, Memory.readChecked_eq, UInt16.add_assoc]

theorem drawPlaneChecked_eq (column : x < 256) (row : y < 256) (early : turn ≤ 1)
    (collision : Bool) (d : Display) (p : Plane) :
    drawPlaneChecked memory x y n.val (collision, UInt16.ofNat (turn * n.val), d) p =
      .ok (collision || (d.drawSprite p x y (spriteRows memory turn n.val)).1,
        UInt16.ofNat ((turn + 1) * n.val),
        (d.drawSprite p x y (spriteRows memory turn n.val)).2) := by
  have hn := n.isLt
  have hlength : (spriteRows memory turn n.val).length < 256 := by
    rw [spriteRows, Memory.length_readBlock]
    omega
  have hnext : UInt16.ofNat (turn * n.val) + UInt16.ofNat n.val =
      UInt16.ofNat ((turn + 1) * n.val) := by
    rw [← UInt16.ofNat_add, Nat.succ_mul]
  have hpast := sum_of_lt (toNat_past n early n.val.le_refl)
  rw [drawPlaneChecked]
  simp only [spriteRowsChecked_eq memory n early, ok_bind,
    Display.drawSpriteChecked_eq d p column row hlength, hpast, hnext, pure_eq_ok]

/-- Drawing on the selected planes, whatever is used up in the end. -/
theorem drawPlanesChecked_eq (column : x < 256) (row : y < 256) (d : Display) :
    ∃ past, d.selection.planes.foldlM (drawPlaneChecked memory x y n.val) (false, 0, d) =
      .ok ((drawPlanes memory d x y n.val).1, past, (drawPlanes memory d x y n.val).2) := by
  have hzero : (0 : Address) = UInt16.ofNat (0 * n.val) := by rw [Nat.zero_mul]; rfl
  have hfirst := drawPlaneChecked_eq memory (n := n) column row (Nat.zero_le 1)
  have hsecond := drawPlaneChecked_eq memory (n := n) column row (Nat.le_refl 1)
  -- The loop is carried out: there are two planes at most.
  rw [drawPlanes, hzero]
  cases d.selection with
  | none => exact ⟨UInt16.ofNat (0 * n.val), rfl⟩
  | a | b =>
      refine ⟨UInt16.ofNat ((0 + 1) * n.val), ?_⟩
      rw [Selection.planes, List.foldlM_cons, hfirst, ok_bind]
      rfl
  | both =>
      refine ⟨UInt16.ofNat ((1 + 1) * n.val), ?_⟩
      rw [Selection.planes, List.foldlM_cons, hfirst, ok_bind, List.foldlM_cons, hsecond, ok_bind]
      rfl

theorem drawChecked_eq (x y : Register) (n : Nibble) :
    m.drawChecked x y n = .ok (m.draw x y n) := by
  -- Taking the flag away makes no difference once it is set.
  have hset : (m.memory.setFlag 0).setFlag 1 = m.memory.setFlag 1 :=
    congrArg (fun registers => { m.memory with registers := registers }) (Vector.set_set ..)
  have hflag : ∀ collision : Bool,
      (if collision then (m.memory.setFlag 0).setFlagChecked 1 else .ok (m.memory.setFlag 0)) =
        .ok (m.memory.setFlag (if collision then 1 else 0)) := by
    rintro (_ | _)
    · rfl
    · exact congrArg Except.ok hset
  rcases drawPlanesChecked_eq (m.memory.setFlag 0) (n := n) (m.reg x).toNat_lt (m.reg y).toNat_lt
    m.display with ⟨past, hplanes⟩
  rw [drawChecked, regChecked_eq, ok_bind, regChecked_eq, ok_bind, Memory.setFlagChecked_eq,
    ok_bind, hplanes, ok_bind]
  simp only [hflag, ok_bind, pure_eq_ok]
  rfl

/-! ### Instructions -/

/-- Skips the next instruction if the key named by a register is, or is not,
    pressed. -/
def skipOnKeyChecked (x : Register) (wanted : Bool) : Checked (Outcome × Machine) := do
  let value ← m.regChecked x
  let pressed ← m.keypad.isPressedChecked value
  return m.skipIf (pressed == wanted)
    (.keyTested (lowNibble value) pressed (pressed == wanted))

/-- Continues at an address plus a register. -/
def jumpOffsetChecked (base : Register) (target : Address) : Checked (Outcome × Machine) := do
  let target ← sum target (← m.regChecked base).toUInt16
  let memory := m.memory.setCounter target
  return (.note (.jumped memory.counter), { m with memory := memory })

/-- Puts the lowest pressed key into a register, or holds the program counter. -/
def awaitKeyChecked (x : Register) : Checked (Outcome × Machine) :=
  match m.keypad.firstPressed with
  | some key => do
    let (change, m) ← m.changeChecked x key.toByte
    return (.note (.keyTaken key change), m)
  | none =>
    let memory := m.memory.retreat
    return (.wait (.held memory.counter), { m with memory := memory })

/-- Points I at the glyph of a digit. -/
def glyphChecked (x : Register) : Checked (Outcome × Machine) := do
  let digit := lowNibble (← m.regChecked x)
  let past ← product (UInt16.ofNat glyphSize) (UInt16.ofNat digit.val)
  let index ← sum fontAddress past
  return (.note (.glyphChosen digit index),
    { m with memory := { m.memory with index := index } })

/-- Stores the decimal digits of a register. -/
def decimalChecked (x : Register) : Checked (Outcome × Machine) := do
  let v ← m.regChecked x
  let (hundreds, tens, ones) := (v / 100, v / 10 % 10, v % 10)
  let memory ← m.memory.writeBlockChecked m.memory.index [hundreds, tens, ones]
  return (.note (.digitsStored v hundreds tens ones), { m with memory := memory })

/-- Where I is left after the registers V0 to VX were transferred. -/
def indexAfterChecked (x : Register) : Checked Address := do
  if m.dialect.indexAdvances then
    return m.memory.index + (← sum (UInt16.ofNat x.val) 1)
  else return m.memory.index

/-- Stores the registers V0 to VX. -/
def saveChecked (x : Register) : Checked (Outcome × Machine) := do
  let memory ← m.memory.saveChecked x
  let index ← m.indexAfterChecked x
  return (.note (.indexLeft index), { m with memory := { memory with index := index } })

/-- Fetches the registers V0 to VX. -/
def restoreChecked (x : Register) : Checked (Outcome × Machine) := do
  let memory ← m.memory.restoreChecked x
  let index ← m.indexAfterChecked x
  return (.note (.indexLeft index), { m with memory := { memory with index := index } })

/-- Scrolls the selected planes. -/
def scrolledChecked (scroll : Display → Checked Display) : Checked (Outcome × Machine) := do
  return m.redrawn (.planes m.display.selection) (← scroll m.display)

/-- Executes an instruction. Those that look nothing up and compute nothing but a
    counter that wraps are as they are. -/
def performChecked : Instruction → Checked (Outcome × Machine)
  | .clearScreen => do return m.redrawn .silent (← m.display.clearChecked)
  | .scrollRight => m.scrolledChecked Display.scrollRightChecked
  | .scrollLeft => m.scrolledChecked Display.scrollLeftChecked
  | .scrollDown n => m.scrolledChecked (·.scrollDownChecked (.ofNat n.val))
  | .scrollUp n => m.scrolledChecked (·.scrollUpChecked (.ofNat n.val))
  | .skipIfByte x k => do
    let vx ← m.regChecked x
    return m.skipIf (vx == k) (.compared [(x, vx)] (vx == k))
  | .skipUnlessByte x k => do
    let vx ← m.regChecked x
    return m.skipIf (vx != k) (.compared [(x, vx)] (vx != k))
  | .skipIfSame x y => do
    let (vx, vy) := (← m.regChecked x, ← m.regChecked y)
    return m.skipIf (vx == vy) (.compared [(x, vx), (y, vy)] (vx == vy))
  | .skipUnlessSame x y => do
    let (vx, vy) := (← m.regChecked x, ← m.regChecked y)
    return m.skipIf (vx != vy) (.compared [(x, vx), (y, vy)] (vx != vy))
  | .setByte x k => m.assignChecked x k
  | .addByte x k => do m.assignChecked x ((← m.regChecked x) + k)
  | .copy x y => do m.assignChecked x (← m.regChecked y)
  | .or x y => do m.assignChecked x ((← m.regChecked x) ||| (← m.regChecked y))
  | .and x y => do m.assignChecked x ((← m.regChecked x) &&& (← m.regChecked y))
  | .xor x y => do m.assignChecked x ((← m.regChecked x) ^^^ (← m.regChecked y))
  | .add x y => do
    let (vx, vy) := (← m.regChecked x, ← m.regChecked y)
    m.assignThenFlagChecked x (vx + vy) (if vx + vy < vx then 1 else 0)
  | .subtract x y => do
    let (vx, vy) := (← m.regChecked x, ← m.regChecked y)
    m.differenceChecked x vx vy
  | .subtractFrom x y => do
    let (vx, vy) := (← m.regChecked x, ← m.regChecked y)
    m.differenceChecked x vy vx
  | .shiftRight x y => do
    let bits ← m.regChecked (m.dialect.shiftSource x y)
    m.assignThenFlagChecked x (← shiftedRight bits 1) (bits &&& 1)
  | .shiftLeft x y => do
    let bits ← m.regChecked (m.dialect.shiftSource x y)
    m.assignThenFlagChecked x (← shiftedLeft bits 1) (← shiftedRight bits 7)
  | .jumpOffset x a => m.jumpOffsetChecked (m.dialect.jumpBase x) a
  | .random x k => do
    let (byte, generator) := m.generator.draw
    { m with generator := generator }.assignChecked x (byte &&& k)
  | .draw x y n => m.drawChecked x y n
  | .skipIfKey x => m.skipOnKeyChecked x true
  | .skipUnlessKey x => m.skipOnKeyChecked x false
  | .readDelay x => m.assignChecked x m.memory.delay
  | .awaitKey x => m.awaitKeyChecked x
  | .setDelay x => do
    let vx ← m.regChecked x
    return (.note (.delaySet vx), { m with memory := { m.memory with delay := vx } })
  | .setSound x => do
    let vx ← m.regChecked x
    return (.note (.soundSet vx), { m with memory := { m.memory with sound := vx } })
  | .addIndex x => do
    let index := m.memory.index + (← m.regChecked x).toUInt16
    return (.note (.indexMoved m.memory.index index),
      { m with memory := { m.memory with index := index } })
  | .glyph x => m.glyphChecked x
  | .decimal x => m.decimalChecked x
  | .save x => m.saveChecked x
  | .restore x => m.restoreChecked x
  | .idle => return m.perform .idle
  | .ret => return m.perform .ret
  | .standardResolution => return m.perform .standardResolution
  | .extendedResolution => return m.perform .extendedResolution
  | .jump a => return m.perform (.jump a)
  | .call a => return m.perform (.call a)
  | .setIndex a => return m.perform (.setIndex a)
  | .selectPlanes n => return m.perform (.selectPlanes n)
  | .unknown w => return m.perform (.unknown w)

/-- Executes a word. -/
def executeChecked (w : Word) : Checked (Decoded × Machine) := do
  let dry := m.explain w
  let (outcome, m) ← m.performChecked dry.instruction
  return (dry.withOutcome outcome, m)

/-- Fetches the word at the program counter and executes it. -/
def stepChecked : Checked (Decoded × Machine) := do
  let (word, memory) ← m.memory.fetchChecked
  { m with memory := memory }.executeChecked word

/-- The sixtieth of a second. The fade goes over its own cells and looks nothing
    up. -/
def tickChecked : Checked Machine := do
  return { m with memory := ← m.memory.tickTimersChecked, display := m.display.tickFade }

theorem skipOnKeyChecked_eq (x : Register) (wanted : Bool) :
    m.skipOnKeyChecked x wanted = .ok (m.skipOnKey x wanted) := by
  simp only [skipOnKeyChecked, regChecked_eq, Keypad.isPressedChecked_eq, ok_bind, pure_eq_ok,
    skipOnKey]

theorem jumpOffsetChecked_eq (base : Register) {target : Address} (fits : target.toNat < 4096) :
    m.jumpOffsetChecked base target = .ok (m.jumpOffset base target) := by
  have hbase : (m.reg base).toUInt16.toNat < 256 := by
    rw [UInt8.toNat_toUInt16]
    exact (m.reg base).toNat_lt
  rw [jumpOffsetChecked, regChecked_eq, ok_bind, sum_of_lt (by omega), ok_bind]
  rfl

theorem awaitKeyChecked_eq (x : Register) : m.awaitKeyChecked x = .ok (m.awaitKey x) := by
  cases hkey : m.keypad.firstPressed with
  | none =>
      simp only [awaitKeyChecked, awaitKey, hkey]
      rfl
  | some key =>
      simp only [awaitKeyChecked, awaitKey, hkey, changeChecked_eq, ok_bind]
      rfl

theorem glyphChecked_eq (x : Register) : m.glyphChecked x = .ok (m.glyph x) := by
  have hproduct : ∀ digit : Nibble, product (UInt16.ofNat glyphSize) (UInt16.ofNat digit.val) =
      .ok (UInt16.ofNat (glyphSize * digit.val)) := by
    decide
  have hsum : ∀ digit : Nibble, sum fontAddress (UInt16.ofNat (glyphSize * digit.val)) =
      .ok (fontAddress + UInt16.ofNat (glyphSize * digit.val)) := by
    decide
  rw [glyphChecked, regChecked_eq, ok_bind]
  simp only [hproduct, hsum, ok_bind]
  rfl

theorem decimalChecked_eq (x : Register) : m.decimalChecked x = .ok (m.decimal x) := by
  simp only [decimalChecked, regChecked_eq, Memory.writeBlockChecked_eq, ok_bind, pure_eq_ok,
    decimal]

theorem indexAfterChecked_eq (x : Register) : m.indexAfterChecked x = .ok (m.indexAfter x) := by
  have hsum : ∀ x : Register,
      sum (UInt16.ofNat x.val) 1 = .ok (UInt16.ofNat (x.val + 1)) := by
    decide
  rw [indexAfterChecked, indexAfter, hsum, ok_bind]
  split <;> rfl

theorem saveChecked_eq (x : Register) : m.saveChecked x = .ok (m.save x) := by
  simp only [saveChecked, Memory.saveChecked_eq, indexAfterChecked_eq, ok_bind, pure_eq_ok, save]

theorem restoreChecked_eq (x : Register) : m.restoreChecked x = .ok (m.restore x) := by
  simp only [restoreChecked, Memory.restoreChecked_eq, indexAfterChecked_eq, ok_bind, pure_eq_ok,
    restore]

theorem scrolledChecked_eq {scroll : Display → Display} {checked : Display → Checked Display}
    (ok : ∀ d, checked d = .ok (scroll d)) :
    m.scrolledChecked checked = .ok (m.scrolled scroll) := by
  rw [scrolledChecked, ok, ok_bind]
  rfl

/-- No instruction fails as long as a jump with an offset has an operand of three
    digits. -/
theorem performChecked_eq {i : Instruction}
    (operand : ∀ x a, i = .jumpOffset x a → a.toNat < 4096) :
    m.performChecked i = .ok (m.perform i) := by
  cases i with
  | clearScreen => rw [performChecked, Display.clearChecked_eq, ok_bind]; rfl
  | scrollRight =>
      rw [performChecked, scrolledChecked_eq m Display.scrollRightChecked_eq]
      rfl
  | scrollLeft =>
      rw [performChecked, scrolledChecked_eq m Display.scrollLeftChecked_eq]
      rfl
  | scrollDown n =>
      rw [performChecked, scrolledChecked_eq m fun d => d.scrollDownChecked_eq n]
      rfl
  | scrollUp n =>
      rw [performChecked, scrolledChecked_eq m fun d => d.scrollUpChecked_eq n]
      rfl
  | jumpOffset x a => exact m.jumpOffsetChecked_eq _ (operand x a rfl)
  | draw x y n => exact m.drawChecked_eq x y n
  | skipIfKey x | skipUnlessKey x => exact m.skipOnKeyChecked_eq x _
  | awaitKey x => exact m.awaitKeyChecked_eq x
  | glyph x => exact m.glyphChecked_eq x
  | decimal x => exact m.decimalChecked_eq x
  | save x => exact m.saveChecked_eq x
  | restore x => exact m.restoreChecked_eq x
  | random => exact assignChecked_eq _ _ _
  | setByte | readDelay => exact m.assignChecked_eq _ _
  | shiftRight | shiftLeft =>
      -- The distances are there to see.
      rw [performChecked, regChecked_eq, ok_bind]
      exact assignThenFlagChecked_eq ..
  | idle | ret | standardResolution | extendedResolution => rfl
  | jump | call | setIndex | selectPlanes | unknown => rfl
  | _ =>
    simp only [performChecked, regChecked_eq, ok_bind, assignChecked_eq, assignThenFlagChecked_eq,
      differenceChecked_eq, pure_eq_ok]
    rfl

theorem toNat_operand_lt {w : Word} {x : Register} {a : Address}
    (jump : Instruction.decode w = .jumpOffset x a) : a.toNat < 4096 := by
  rcases Instruction.valid_decode w with valid | unknown
  · rw [jump] at valid
    exact valid.1
  · rw [jump] at unknown
    cases unknown

theorem executeChecked_eq (w : Word) : m.executeChecked w = .ok (m.execute w) := by
  have hperform : m.performChecked (.decode w) = .ok (m.perform (.decode w)) :=
    m.performChecked_eq fun x a jump => toNat_operand_lt jump
  -- The description is made of the word alone, before the instruction.
  rw [executeChecked]
  simp only [explain, Decoded.ofWord, hperform, ok_bind]
  rfl

theorem stepChecked_eq : m.stepChecked = .ok m.step := by
  rw [stepChecked, Memory.fetchChecked_eq, ok_bind]
  exact executeChecked_eq _ _

theorem tickChecked_eq : m.tickChecked = .ok m.tick := by
  rw [tickChecked, Memory.tickTimersChecked_eq, ok_bind]
  rfl

end Machine

end ChipEight
