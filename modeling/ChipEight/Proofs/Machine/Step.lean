import ChipEight.Proofs.Machine.Control

/-!
# One Step

A step is the performance of one instruction on a machine whose counter has
been moved past it. The lemmas below carry what is known about performing an
instruction over to the step as a whole, so that later statements need not
mention the machine in between. Only two parts of it matter to an instruction:
where the counter is left, and what a call pushes. Everything reported depends
on the machine before the fetch alone.

## Main definitions

* `Machine.nextWord`, `Machine.next`: What the next step executes.
* `Machine.fetched`: The machine after the fetch.

## Theorems

* `Machine.step_eq_perform`: What a step is made of.
* `Machine.step_effect`: What a step reports.
* `Machine.step_counter`: Where a step leaves the program counter.
* `Machine.step_stack`: What a step makes of the return addresses.
-/

namespace ChipEight

namespace Machine

/-- The word that the next step executes. -/
def nextWord (m : Machine) : Word :=
  m.memory.wordAt m.memory.counter

/-- The instruction that the next step executes. -/
def next (m : Machine) : Instruction :=
  .decode m.nextWord

/-- The machine that the next step performs its instruction on. -/
def fetched (m : Machine) : Machine :=
  { m with memory := m.memory.advance }

@[simp] theorem stack_fetched (m : Machine) : m.fetched.memory.stack = m.memory.stack :=
  rfl

@[simp] theorem keypad_fetched (m : Machine) : m.fetched.keypad = m.keypad :=
  rfl

end Machine

namespace Instruction

variable (m : Machine) (i : Instruction)

/-- Fetching moves the counter, and no condition looks at it. -/
theorem condition?_fetched : i.condition? m.fetched = i.condition? m := by
  cases i <;> rfl

theorem waits_fetched : i.waits m.fetched = i.waits m := by
  cases i <;> rfl

theorem fault?_fetched : i.fault? m.fetched = i.fault? m := by
  cases i <;> rfl

end Instruction

namespace Machine

theorem step_eq (m : Machine) :
    m.step = ((m.fetched.execute m.nextWord).1, (m.fetched.perform m.next).2) :=
  rfl

/-- The record of a step is the text of its word and what performing the
    instruction tells. -/
theorem step_eq_perform (m : Machine) :
    m.step = ((Decoded.ofWord m.dialect m.nextWord).withOutcome (m.fetched.perform m.next).1,
      (m.fetched.perform m.next).2) :=
  rfl

theorem step_effect (m : Machine) :
    m.step.1.effect =
      { branch := m.next.condition? m, redraw := m.next.repaints, waiting := m.next.waits m,
        fault := m.next.fault? m } := by
  rw [← Instruction.condition?_fetched, ← Instruction.waits_fetched,
    ← Instruction.fault?_fetched]
  exact perform_effect m.fetched m.next

theorem step_counter (m : Machine) : m.step.2.memory.counter = m.next.successor m.fetched :=
  perform_counter m.fetched m.next

theorem step_stack (m : Machine) : m.step.2.memory.stack = m.next.stackAfter m.fetched := by
  rw [step_eq, perform_eq]

end Machine

end ChipEight
