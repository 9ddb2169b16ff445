import ChipEight.Proofs.Console.Actions

/-!
# Timers

What a timer stands at is the value it was last set to, less the ticks since, and
never below zero.

Two things move a timer, and they are kept apart here. An instruction can set
it, `FX15` the delay timer and `FX18` the sound timer; every other one leaves it
alone, whether it faults, waits or rewrites the program. A tick lets it count
down. So over a stretch of a history in which nothing sets the timer it only
counts the ticks (`Console.timer_replay_of_unset`), and a whole history is such
a stretch after the last instruction that set it.

Counting down stops at zero and does so tick by tick, while the ticks are taken
away all at once in the statement. Both give the same because subtraction of
numbers stops at zero as well.

## Main definitions

* `Timer`, `Memory.timer`: The two timers.
* `Machine.sets?`: What the next instruction sets a timer to.
* `Console.LastSet`: What a timer was last set to over a history, and the ticks
  since.
* `Console.TimerAt`: What can be seen of a timer that stands at a number.

## Theorems

* `Machine.timer_step`: What a step makes of a timer.
* `Console.timer_after_of_unset`, `Console.timer_replay_of_unset`: A timer that
  nothing sets counts ticks.
* `Console.exists_lastSet`: Over every history a timer was last set to something.
* `timers_count_ticks`: What the timers stand at after a history.
-/

namespace ChipEight

/-- The two timers. -/
inductive Timer where
  | delay
  | sound
  deriving DecidableEq

/-- What a timer stands at. -/
def Memory.timer (m : Memory) : Timer → UInt8
  | .delay => m.delay
  | .sound => m.sound

theorem Memory.toNat_countDown (timer : UInt8) : (countDown timer).toNat = timer.toNat - 1 := by
  unfold countDown
  by_cases stopped : timer = 0
  · rw [if_pos stopped, stopped]
    rfl
  · have hpositive : timer.toNat ≠ 0 := fun h => stopped (UInt8.toNat_inj.mp h)
    have hone : (1 : UInt8) ≤ timer := by
      rw [UInt8.le_iff_toNat_le]
      exact Nat.one_le_iff_ne_zero.mpr hpositive
    rw [if_neg stopped, UInt8.toNat_sub_of_le _ _ hone]
    rfl

/-- What an instruction sets a timer to, if it does. -/
def Instruction.sets? (m : Machine) : Timer → Instruction → Option UInt8
  | .delay, setDelay x => some (m.reg x)
  | .sound, setSound x => some (m.reg x)
  | _, _ => none

namespace Machine

/-- What the next instruction sets a timer to, if it does. -/
def sets? (m : Machine) (t : Timer) : Option UInt8 :=
  m.next.sets? m t

/-- A step sets a timer if its instruction does, and leaves it alone otherwise. -/
theorem timer_step (m : Machine) (t : Timer) :
    m.step.2.memory.timer t = (m.sets? t).getD (m.memory.timer t) := by
  rw [step_eq, perform_eq, sets?]
  cases t with
  | delay => cases m.next <;> rfl
  | sound => cases m.next <;> rfl

end Machine

namespace Console

/-- What a timer stands at. -/
def timer (c : Console) (t : Timer) : UInt8 :=
  c.machine.memory.timer t

/-! ### Histories in which nothing sets the timer -/

theorem timer_tick (c : Console) (t : Timer) : (c.tick.timer t).toNat = (c.timer t).toNat - 1 := by
  cases t with
  | delay => exact Memory.toNat_countDown c.machine.memory.delay
  | sound => exact Memory.toNat_countDown c.machine.memory.sound

theorem timer_after_of_unset {c : Console} {e : Event} {t : Timer} (running : e.isLoad = false)
    (unset : ∀ m ∈ (c.executing? e).toList, m.sets? t = none) :
    ((c.after e).timer t).toNat = (c.timer t).toNat - [e].countP Event.isTick := by
  cases e with
  | step =>
      have hunset : c.machine.sets? t = none := unset c.machine (List.mem_singleton.mpr rfl)
      have hstep : (c.after .step).timer t = _ := c.machine.timer_step t
      rw [hstep, hunset]
      rfl
  | tick => exact c.timer_tick t
  | load => cases running
  | _ => rfl

/-- A timer that nothing sets counts the ticks. -/
theorem timer_replay_of_unset {c : Console} {history : List Event} {t : Timer}
    (running : ∀ e ∈ history, e.isLoad = false)
    (unset : ∀ m ∈ c.executions history, m.sets? t = none) :
    ((c.replay history).timer t).toNat = (c.timer t).toNat - history.countP Event.isTick := by
  induction history generalizing c with
  | nil => rfl
  | cons e rest ih =>
      rcases List.forall_mem_cons.mp running with ⟨hevent, hlater⟩
      rcases List.forall_mem_append.mp unset with ⟨hfirst, hrest⟩
      have hcount : (e :: rest).countP Event.isTick =
          [e].countP Event.isTick + rest.countP Event.isTick := by
        rw [← List.countP_append]
        rfl
      rw [replay_cons, ih hlater hrest, timer_after_of_unset hevent hfirst, hcount, Nat.sub_sub]

/-! ### What a timer was last set to -/

/-- Over a history a timer was last set to a value, so many ticks before the end
    of it. A timer that nothing sets counts as set to what it stood at when the
    history began. -/
inductive LastSet (c : Console) (t : Timer) : List Event → UInt8 → Nat → Prop where
  | before {history : List Event} (unset : ∀ m ∈ c.executions history, m.sets? t = none) :
      LastSet c t history (c.timer t) (history.countP Event.isTick)
  | within (first rest : List Event) {value : UInt8}
      (set : (c.replay first).machine.sets? t = some value)
      (unset : ∀ m ∈ (c.replay first).step.2.executions rest, m.sets? t = none) :
      LastSet c t (first ++ .step :: rest) value (rest.countP Event.isTick)

/-- Over every history a timer was last set to something. -/
theorem exists_lastSet (c : Console) (t : Timer) (history : List Event) :
    ∃ value ticks, c.LastSet t history value ticks := by
  induction history generalizing c with
  | nil => exact ⟨_, _, .before (fun _ absent => absurd absent List.not_mem_nil)⟩
  | cons e rest ih =>
      rcases ih (c.after e) with ⟨_, _, last⟩
      cases last with
      | within first rest set unset => exact ⟨_, _, .within (e :: first) rest set unset⟩
      | before unset =>
          -- Nothing sets it after the first event, so that event decides.
          by_cases hfirst : ∀ m ∈ (c.executing? e).toList, m.sets? t = none
          · exact ⟨_, _, .before (List.forall_mem_append.mpr ⟨hfirst, unset⟩)⟩
          · cases e with
            | step =>
                cases hset : c.machine.sets? t with
                | some value => exact ⟨_, _, .within [] rest hset unset⟩
                | none =>
                    refine absurd (fun m hm => ?_) hfirst
                    rw [List.mem_singleton.mp hm, hset]
            | _ => exact absurd (fun m hm => absurd hm List.not_mem_nil) hfirst

/-- What a timer stands at after a history: what it was last set to, less the
    ticks since. -/
theorem LastSet.timer_replay {c : Console} {t : Timer} {history : List Event} {value : UInt8}
    {ticks : Nat} (last : c.LastSet t history value ticks)
    (running : ∀ e ∈ history, e.isLoad = false) :
    ((c.replay history).timer t).toNat = value.toNat - ticks := by
  cases last with
  | before unset => exact timer_replay_of_unset running unset
  | within first rest set unset =>
      rcases List.forall_mem_append.mp running with ⟨-, hrest⟩
      rcases List.forall_mem_cons.mp hrest with ⟨-, hlater⟩
      have hstep : (c.replay first).step.2.timer t = _ := (c.replay first).machine.timer_step t
      -- What came before the step that set it no longer counts.
      rw [replay_append, replay_cons]
      exact (timer_replay_of_unset hlater unset).trans (by rw [hstep, set]; rfl)

/-! ### Looking at the timers -/

/-- What can be seen of a timer that stands at a number: the number, a tone if it
    is the number of the sound timer and not zero, and the number once more in
    the register that an instruction reads the delay timer into. -/
structure TimerAt (c : Console) (t : Timer) (n : Nat) : Prop where
  value : (c.timer t).toNat = n
  sounding : t = .sound → (c.soundActive = true ↔ 0 < n)
  read : t = .delay → ∀ x, c.machine.next = .readDelay x → (c.step.2.machine.reg x).toNat = n

theorem timerAt_toNat (c : Console) (t : Timer) : c.TimerAt t (c.timer t).toNat where
  value := rfl
  sounding := by
    rintro rfl
    exact decide_eq_true_iff.trans UInt8.lt_iff_toNat_lt
  read := by
    rintro rfl x hnext
    have hread : c.step.2.machine.reg x = c.machine.memory.delay := by
      have hstep : c.step.2.machine = (c.machine.fetched.perform c.machine.next).2 := rfl
      rw [hstep, hnext]
      exact (Memory.reg_setReg ..).trans (if_pos rfl)
    rw [hread]
    rfl

end Console

/-- Over any history without another program, each timer was last set to some
    value, by an instruction or before the history began, and whatever that
    value and the number of ticks since are, the timer now stands at their
    difference, or at zero. A tone sounds as long as the sound timer is above
    zero, and an instruction that reads the delay timer gets that number. -/
theorem timers_count_ticks {c : Console} {history : List Console.Event}
    (running : ∀ e ∈ history, e.isLoad = false) (t : Timer) :
    (∃ value ticks, c.LastSet t history value ticks) ∧
      ∀ value ticks, c.LastSet t history value ticks →
        (c.replay history).TimerAt t (value.toNat - ticks) := by
  refine ⟨c.exists_lastSet t history, fun value ticks last => ?_⟩
  rw [← last.timer_replay running]
  exact (c.replay history).timerAt_toNat t

/-- A console whose program sets the delay timer to 3, then the sound timer, and
    then reads the delay timer. -/
def Console.timing : Console :=
  (Console.new {} 0).replay [.load [0x60, 0x03, 0xF0, 0x15, 0xF0, 0x18, 0xF1, 0x07]]

open Console in
/-- Two ticks pass between setting the delay timer and reading it, one of them
    before the sound timer is set to the same value. -/
theorem timers_count_ticks_until_read :
    timing.LastSet .delay [.step, .step, .tick, .step, .tick] 3 2 ∧
      (timing.replay [.step, .step, .tick, .step, .tick]).TimerAt .delay 1 ∧
      (timing.replay [.step, .step, .tick, .step, .tick]).TimerAt .sound 2 ∧
      (timing.replay [.step, .step, .tick, .step, .tick]).machine.next = .readDelay 0x1 := by
  have running : ∀ e ∈ [Event.step, .step, .tick, .step, .tick], e.isLoad = false := by decide
  have hdelay : timing.LastSet .delay [.step, .step, .tick, .step, .tick] 3 2 :=
    .within [.step] [.tick, .step, .tick] (by decide +kernel) (by decide +kernel)
  have hsound : timing.LastSet .sound [.step, .step, .tick, .step, .tick] 3 1 :=
    .within [.step, .step, .tick] [.tick] (by decide +kernel) (by decide +kernel)
  exact ⟨hdelay, (timers_count_ticks running .delay).2 3 2 hdelay,
    (timers_count_ticks running .sound).2 3 1 hsound, by decide +kernel⟩

end ChipEight
