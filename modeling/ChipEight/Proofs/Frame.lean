import ChipEight.Console
import ChipEight.Proofs.Machine.Step
import Mathlib.Tactic.ByContra

/-!
# What an Instruction Leaves Alone

Each instruction changes what it is named for and nothing else.

`Frame` states this from the side of the machine: for each part, if it differs
after an instruction, which instructions can be the reason. Stated so, a frame
is a table of the whole instruction set with one row for each part of the
machine, and an instruction that touched a part it has no business with would
contradict that part's row. Parts that no instruction changes are equal.

The rows follow from the equation of the parts, `Machine.perform_eq`, by the
cases of one function each. The registers are the exception: there it is the
handlers that are looked at, since an assignment of the old value changes
nothing and several assign two registers.

## Main definitions

* `Instruction.MayAssign`, `Instruction.Paints`: Which instructions assign a
  register, and which change pixels.
* `Frame`: What one instruction may change.

## Theorems

* `Machine.perform_registers`: Only registers an instruction may assign change.
* `Machine.perform_ram`: Only the bytes that an instruction stores change.
* `Machine.modes_displayAfter`: Painting keeps all modes but the snapshot.
* `Machine.perform_frame`: Performing an instruction stays within its frame.
* `instruction_frame`: So does executing a word, and every step of a console.
-/

namespace ChipEight

namespace Instruction

/-- Whether an instruction may put a new value into a register. Waiting for a
    key does so only if one is held. -/
def MayAssign (held : Bool) : Instruction → Register → Prop
  | restore x, r => r ≤ x
  | readDelay x, r | setByte x _, r | addByte x _, r | random x _, r => r = x
  | copy x _, r | or x _, r | and x _, r | xor x _, r => r = x
  | awaitKey x, r => held = true ∧ r = x
  | add x _, r | subtract x _, r | subtractFrom x _, r => r = x ∨ r = flagRegister
  | shiftRight x _, r | shiftLeft x _, r => r = x ∨ r = flagRegister
  | draw _ _ _, r => r = flagRegister
  | _, _ => False

/-- Whether an instruction may change pixels. -/
def Paints : Instruction → Prop
  | clearScreen | scrollRight | scrollLeft | scrollDown _ | scrollUp _ | draw _ _ _ => True
  | _ => False

end Instruction

/-- What one instruction may change of a machine. Each field names a part of
    the machine and, if it differs afterwards, the instructions that can be the
    reason. -/
structure Frame (before : Machine) (i : Instruction) (fault : Option Fault) (after : Machine) :
    Prop where
  ram : ∀ a, after.memory.read a ≠ before.memory.read a →
    (∃ x, i = .decimal x ∧ ∃ k < 3, (cellOf a).val = (before.memory.index.toNat + k) % 4096) ∨
    (∃ x, i = .save x ∧ ∃ k ≤ x.val, (cellOf a).val = (before.memory.index.toNat + k) % 4096)
  stack : after.memory.stack ≠ before.memory.stack →
    (∃ a, i = .call a) ∨ (i = .ret ∧ fault = none)
  delay : after.memory.delay ≠ before.memory.delay → ∃ x, i = .setDelay x
  sound : after.memory.sound ≠ before.memory.sound → ∃ x, i = .setSound x
  index : after.memory.index ≠ before.memory.index →
    (∃ a, i = .setIndex a) ∨ (∃ x, i = .addIndex x) ∨ (∃ x, i = .glyph x) ∨
    (before.dialect.indexAdvances = true ∧ ∃ x, i = .save x ∨ i = .restore x)
  registers : ∀ r, after.reg r ≠ before.reg r →
    i.MayAssign before.keypad.firstPressed.isSome r
  pixels : ∀ p x y, after.display.pixel p x y ≠ before.display.pixel p x y → i.Paints
  fade : ∀ x y, after.display.fade.get x y ≠ before.display.fade.get x y → i.Paints
  lastSprite : after.display.lastSprite ≠ before.display.lastSprite → ∃ x y n, i = .draw x y n
  resolution : after.display.resolution ≠ before.display.resolution →
    i = .standardResolution ∨ i = .extendedResolution
  selection : after.display.selection ≠ before.display.selection → ∃ n, i = .selectPlanes n
  generator : after.generator ≠ before.generator → ∃ x mask, i = .random x mask
  romLength : after.memory.romLength = before.memory.romLength
  keypad : after.keypad = before.keypad
  dialect : after.dialect = before.dialect
  fading : after.display.fading = before.display.fading

namespace Machine

variable {m : Machine} {x r : Register}

/-! ### Registers -/

theorem eq_of_reg_setReg {value : UInt8} (changed : (m.setReg x value).reg r ≠ m.reg r) :
    r = x := by
  by_contra other
  exact changed (m.reg_setReg_of_ne other value)

theorem eq_of_reg_setFlag {value : UInt8} (changed : (m.setFlag value).reg r ≠ m.reg r) :
    r = flagRegister :=
  eq_of_reg_setReg changed

theorem eq_of_reg_assignThenFlag {value flag : UInt8}
    (changed : (m.assignThenFlag x value flag).2.reg r ≠ m.reg r) : r = x ∨ r = flagRegister := by
  by_cases same : (m.setReg x value).reg r = m.reg r
  · rw [← same] at changed
    exact .inr (eq_of_reg_setFlag changed)
  · exact .inl (eq_of_reg_setReg same)

theorem eq_of_reg_flagThenAssign {value flag : UInt8}
    (changed : (m.flagThenAssign x value flag).2.reg r ≠ m.reg r) : r = x ∨ r = flagRegister := by
  by_cases same : (m.setFlag flag).reg r = m.reg r
  · rw [← same] at changed
    exact .inl (eq_of_reg_setReg changed)
  · exact .inr (eq_of_reg_setFlag same)

theorem eq_of_reg_difference {minuend subtrahend : UInt8}
    (changed : (m.difference x minuend subtrahend).2.reg r ≠ m.reg r) :
    r = x ∨ r = flagRegister := by
  by_cases first : m.dialect.flagFirst = true
  · simp only [difference, if_pos first] at changed
    exact eq_of_reg_flagThenAssign changed
  · simp only [difference, if_neg first] at changed
    exact eq_of_reg_assignThenFlag changed

theorem le_of_reg_restore (changed : (m.restore x).2.reg r ≠ m.reg r) : r ≤ x := by
  by_contra beyond
  refine changed ?_
  -- Past the end of the block a register is given its own value.
  have hlen : ¬ r.val < (m.memory.readBlock m.memory.index (x.val + 1)).length := by
    rw [Memory.length_readBlock, Nat.lt_succ_iff]
    exact beyond
  simp only [restore, reg, Memory.reg, Memory.setRegisters, Fin.getElem_fin, Vector.getElem_ofFn,
    List.getD_eq_getElem?_getD, List.getElem?_eq_none (Nat.le_of_not_lt hlen), Option.getD_none]

/-- Only registers that an instruction may assign change. The cases are grouped
    by handler: one assignment, an assignment and a flag, a block of registers,
    a key, and then those that assign none. -/
theorem perform_registers (i : Instruction) (changed : (m.perform i).2.reg r ≠ m.reg r) :
    i.MayAssign m.keypad.firstPressed.isSome r := by
  cases i with
  | setByte | addByte | copy | or | and | xor | random | readDelay =>
      exact eq_of_reg_setReg changed
  | add | shiftRight | shiftLeft => exact eq_of_reg_assignThenFlag changed
  | subtract | subtractFrom => exact eq_of_reg_difference changed
  | draw => exact eq_of_reg_setFlag changed
  | restore => exact le_of_reg_restore changed
  | awaitKey =>
      rw [perform, awaitKey] at changed
      -- Without a key the counter is moved instead of a register.
      cases h : m.keypad.firstPressed with
      | none =>
          rw [h] at changed
          exact absurd rfl changed
      | some key =>
          rw [h] at changed
          exact ⟨rfl, eq_of_reg_setReg changed⟩
  | ret =>
      rw [perform, ret_frame] at changed
      exact absurd rfl changed
  | skipIfByte | skipUnlessByte | skipIfSame | skipUnlessSame =>
      rw [perform, skipOn, skipIf_frame] at changed
      exact absurd rfl changed
  | skipIfKey | skipUnlessKey =>
      rw [perform, skipOnKey, skipIf_frame] at changed
      exact absurd rfl changed
  | decimal =>
      rw [perform, decimal] at changed
      simp only [] at changed
      rw [Memory.writeBlock_eq] at changed
      exact absurd rfl changed
  | save =>
      rw [perform, save] at changed
      simp only [] at changed
      rw [Memory.writeBlock_eq] at changed
      exact absurd rfl changed
  | _ => exact absurd rfl changed

/-! ### The display -/

theorem lastSprite_displayAfter {i : Instruction}
    (changed : (i.displayAfter m).lastSprite ≠ m.display.lastSprite) :
    ∃ x y n, i = .draw x y n := by
  cases i with
  | draw x y n => exact ⟨x, y, n, rfl⟩
  | clearScreen => exact absurd (congrArg Modes.lastSprite (Display.modes_clear _)) changed
  | scrollRight | scrollLeft | scrollDown | scrollUp =>
      exact absurd (congrArg Modes.lastSprite (Display.modes_scroll ..)) changed
  | _ => exact absurd rfl changed

/-- Painting keeps every mode but the snapshot. -/
theorem modes_displayAfter {i : Instruction} (painted : i.Paints) :
    (i.displayAfter m).modes =
      { m.display.modes with lastSprite := (i.displayAfter m).lastSprite } := by
  cases i with
  | draw => exact modes_drawPlanes ..
  | clearScreen => exact Display.modes_of_kept (Display.modes_clear _)
  | scrollRight | scrollLeft | scrollDown | scrollUp =>
      exact Display.modes_of_kept (Display.modes_scroll ..)
  | _ => exact painted.elim

/-! ### The frame of one instruction -/

theorem perform_ram (i : Instruction) {a : Address}
    (changed : (m.perform i).2.memory.read a ≠ m.memory.read a) :
    ∃ k < (i.stored m).length, (cellOf a).val = (m.memory.index.toNat + k) % 4096 := by
  by_contra outside
  refine changed ?_
  rw [perform_eq]
  refine Memory.read_writeBlock_of_ne _ _ _ _ (fun k hk same => outside ⟨k, hk, ?_⟩)
  rw [← same, cellOf_add]
  rfl

theorem indexAdvances_of_ne (changed : m.indexAfter x ≠ m.memory.index) :
    m.dialect.indexAdvances = true := by
  by_contra fixed
  exact changed (if_neg fixed)

theorem perform_frame (m : Machine) (i : Instruction) :
    Frame m i (i.fault? m) (m.perform i).2 where
  ram a changed := by
    rcases perform_ram i changed with ⟨k, hk, same⟩
    cases i with
    | decimal x => exact .inl ⟨x, rfl, k, hk, same⟩
    | save x =>
        have hlen : k < x.val + 1 := m.memory.length_registersUpTo x ▸ hk
        exact .inr ⟨x, rfl, k, Nat.lt_succ_iff.mp hlen, same⟩
    | _ => exact absurd hk (Nat.not_lt_zero k)
  stack changed := by
    rw [perform_eq] at changed
    cases i with
    | call a => exact .inl ⟨a, rfl⟩
    | ret =>
        -- An empty stack stays empty, so a stack that changed had an address to return to.
        refine .inr ⟨rfl, if_neg (fun empty => changed ?_)⟩
        rw [Instruction.stackAfter_ret, empty, List.tail_nil]
    | _ => exact absurd rfl changed
  delay changed := by
    rw [perform_eq] at changed
    cases i with
    | setDelay x => exact ⟨x, rfl⟩
    | _ => exact absurd rfl changed
  sound changed := by
    rw [perform_eq] at changed
    cases i with
    | setSound x => exact ⟨x, rfl⟩
    | _ => exact absurd rfl changed
  index changed := by
    rw [perform_eq] at changed
    cases i with
    | setIndex a => exact .inl ⟨a, rfl⟩
    | addIndex x => exact .inr (.inl ⟨x, rfl⟩)
    | glyph x => exact .inr (.inr (.inl ⟨x, rfl⟩))
    | save x => exact .inr (.inr (.inr ⟨indexAdvances_of_ne changed, x, .inl rfl⟩))
    | restore x => exact .inr (.inr (.inr ⟨indexAdvances_of_ne changed, x, .inr rfl⟩))
    | _ => exact absurd rfl changed
  registers r changed := perform_registers i changed
  pixels p x y changed := by
    rw [perform_eq] at changed
    cases i with
    | clearScreen | scrollRight | scrollLeft | scrollDown | scrollUp | draw => trivial
    | _ => exact absurd rfl changed
  fade x y changed := by
    rw [perform_eq] at changed
    cases i with
    | clearScreen | scrollRight | scrollLeft | scrollDown | scrollUp | draw => trivial
    | _ => exact absurd rfl changed
  lastSprite changed := by
    rw [perform_eq] at changed
    exact lastSprite_displayAfter changed
  resolution changed := by
    rw [perform_eq] at changed
    -- Painting keeps the modes by a fold over pixels, everything else by computation.
    by_cases painted : i.Paints
    · exact absurd (congrArg Modes.resolution (modes_displayAfter painted)) changed
    · cases i with
      | standardResolution => exact .inl rfl
      | extendedResolution => exact .inr rfl
      | clearScreen | scrollRight | scrollLeft | scrollDown | scrollUp | draw =>
          exact absurd trivial painted
      | _ => exact absurd rfl changed
  selection changed := by
    rw [perform_eq] at changed
    by_cases painted : i.Paints
    · exact absurd (congrArg Modes.selection (modes_displayAfter painted)) changed
    · cases i with
      | selectPlanes n => exact ⟨n, rfl⟩
      | clearScreen | scrollRight | scrollLeft | scrollDown | scrollUp | draw =>
          exact absurd trivial painted
      | _ => exact absurd rfl changed
  generator changed := by
    rw [perform_eq] at changed
    cases i with
    | random x mask => exact ⟨x, mask, rfl⟩
    | _ => exact absurd rfl changed
  romLength := by rw [perform_eq]
  keypad := by rw [perform_eq]
  dialect := by rw [perform_eq]
  fading := by
    rw [perform_eq]
    by_cases painted : i.Paints
    · exact congrArg Modes.fading (modes_displayAfter painted)
    · cases i with
      | clearScreen | scrollRight | scrollLeft | scrollDown | scrollUp | draw =>
          exact absurd trivial painted
      | _ => rfl

theorem execute_frame (m : Machine) (w : Word) :
    Frame m (.decode w) (m.execute w).1.effect.fault (m.execute w).2 := by
  have h := m.perform_frame (.decode w)
  rwa [show Instruction.fault? m (.decode w) = (m.execute w).1.effect.fault from
    congrArg Effect.fault (m.perform_effect (.decode w)).symm] at h

end Machine

/-- Executing a word changes nothing of a machine but what its instruction is
    named for, and a step of a console nothing but what the instruction at the
    program counter is named for, except that it moves the program counter.
    The settings of the console never change. -/
theorem instruction_frame (m : Machine) (w : Word) (c : Console) :
    Frame m (.decode w) (m.execute w).1.effect.fault (m.execute w).2 ∧
      Frame c.machine c.machine.next c.step.1.effect.fault c.step.2.machine ∧
      c.step.2.settings = c.settings := by
  refine ⟨m.execute_frame w, ?_, rfl⟩
  -- Fetching moved the counter alone, which no clause of the frame looks at.
  have hframe := c.machine.fetched.execute_frame c.machine.nextWord
  exact { hframe with }

end ChipEight
