import ChipEight.Proofs.Console.Events
import ChipEight.Proofs.Memory.Wrapping

/-!
# Waiting for a Key

A host may stop a session at the first instruction that waits for a key. That
it loses nothing by this is not a matter of the instruction alone. The fetch
moves the program counter and the instruction moves it back, each move with a
wrap of its own, so a console is left exactly as it was only if its counter was
in range; and going on is harmless only if letting time pass touches nothing
that the wait depends on.

`Console.Held` names the state of affairs that both facts add up to: the next
step waits and leads back to the same console. It is kept by steps and by
ticks, which is all that happens during a session. A console whose next step
waits need not be held, since a counter out of range would be wrapped by that
step. The console after the step is held in any case, and this is why the
comparison of sessions holds of every console, reachable or not.

## Main definitions

* `Console.Held`: The next step waits and leads back.
* `Console.SameButTime`: Two consoles differ at most in timers and fade.
* `Console.runThrough`: A session that goes on while instructions wait.

## Theorems

* `Machine.step_of_waiting`: What a step that waits reports and leaves behind.
* `Console.Held.tick`: A held console stays held as time passes, with the same
  record.
* `Console.Held.replay`: Nothing but the ticks of a history reaches a held
  console.
* `Session.sameButTime_advance`: A session agrees with one that goes on.
* `key_wait_loses_nothing`: Stopping at a wait loses nothing.
-/

namespace ChipEight

/-! ### One step -/

namespace Machine

theorem waits_of_waiting {m : Machine} (waiting : m.step.1.effect.waiting = true) :
    (∃ x, m.next = .awaitKey x) ∧ ∀ key, m.keypad.isPressed key = false := by
  rw [step_effect] at waiting
  exact Instruction.waits_iff.mp waiting

/-- A step that waits is known completely: its record depends on the dialect,
    the word and the counter, and all it may do is to wrap the counter. -/
theorem step_of_waiting {m : Machine} (waiting : m.step.1.effect.waiting = true) :
    m.step =
      ((Decoded.ofWord m.dialect m.nextWord).withOutcome
          (.wait (.held (wrapAddress m.memory.counter))),
        { m with memory := { m.memory with counter := wrapAddress m.memory.counter } }) := by
  rcases waits_of_waiting waiting with ⟨⟨x, hnext⟩, released⟩
  have hperform : m.fetched.perform m.next =
      (.wait (.held m.fetched.memory.retreat.counter),
        { m.fetched with memory := m.fetched.memory.retreat }) := by
    rw [hnext]
    exact awaitKey_of_none x released
  -- The fetch went forward and the wait goes back.
  have hcounter : m.fetched.memory.retreat.counter = wrapAddress m.memory.counter :=
    wrapAddress_sub_add m.memory.counter 2
  rw [step_eq_perform, hperform, ← hcounter]
  rfl

/-- Time passing changes nothing that decides whether the next step waits. -/
theorem waiting_tick {m : Machine} (waiting : m.step.1.effect.waiting = true) :
    m.tick.step.1.effect.waiting = true := by
  have hwait := waits_of_waiting waiting
  rw [step_effect]
  exact Instruction.waits_iff.mpr hwait

/-- The word at the wrapped counter is the word that was executed, so that a
    step that waits is followed by another. -/
theorem waiting_step {m : Machine} (waiting : m.step.1.effect.waiting = true) :
    m.step.2.step.1.effect.waiting = true := by
  have hwait := waits_of_waiting waiting
  have hword : m.memory.wordAt (wrapAddress m.memory.counter) = m.nextWord :=
    m.memory.wordAt_congr (wrapAddress_wrapAddress m.memory.counter)
  have hnext : m.step.2.next = m.next := by
    rw [step_of_waiting waiting]
    exact congrArg Instruction.decode hword
  have hkeypad : m.step.2.keypad = m.keypad := by
    rw [step_of_waiting waiting]
  rw [step_effect]
  refine Instruction.waits_iff.mpr ?_
  rw [hnext, hkeypad]
  exact hwait

end Machine

namespace Console

/-- The next step waits, and leads back to the same console. -/
structure Held (c : Console) : Prop where
  waiting : c.step.1.effect.waiting = true
  step : c.step.2 = c

theorem step_of_waiting {c : Console} (waiting : c.step.1.effect.waiting = true) :
    c.step.2 = { c with machine := { c.machine with memory := { c.machine.memory with
      counter := wrapAddress c.machine.memory.counter } } } := by
  have hmachine := congrArg Prod.snd (Machine.step_of_waiting (m := c.machine) waiting)
  exact congrArg (fun machine => { c with machine := machine }) hmachine

/-- A counter that wraps to itself is put back by a wait. -/
theorem held_of_wrapped {c : Console} (waiting : c.step.1.effect.waiting = true)
    (wrapped : wrapAddress c.machine.memory.counter = c.machine.memory.counter) : c.Held := by
  refine ⟨waiting, ?_⟩
  rw [step_of_waiting waiting, wrapped]

theorem Reachable.held {c : Console} (reached : c.Reachable)
    (waiting : c.step.1.effect.waiting = true) : c.Held :=
  held_of_wrapped waiting (wrapAddress_of_lt reached.inRange.counter)

theorem Held.wrapped {c : Console} (held : c.Held) :
    wrapAddress c.machine.memory.counter = c.machine.memory.counter := by
  have h := step_of_waiting held.waiting
  rw [held.step] at h
  exact (congrArg (·.machine.memory.counter) h).symm

/-- After a step that waits a console is held, wherever its counter was. -/
theorem held_step {c : Console} (waiting : c.step.1.effect.waiting = true) : c.step.2.Held := by
  have hwrapped : wrapAddress c.step.2.machine.memory.counter =
      c.step.2.machine.memory.counter := by
    rw [step_of_waiting waiting]
    exact wrapAddress_wrapAddress _
  exact held_of_wrapped (Machine.waiting_step waiting) hwrapped

theorem Held.tick {c : Console} (held : c.Held) : c.tick.Held :=
  held_of_wrapped (Machine.waiting_tick held.waiting) held.wrapped

/-- The record of a wait shows nothing that time changes. -/
theorem Held.record_tick {c : Console} (held : c.Held) : c.tick.step.1 = c.step.1 := by
  have hnow := Machine.step_of_waiting (m := c.machine) held.waiting
  have hlater := Machine.step_of_waiting (m := c.tick.machine) held.tick.waiting
  exact (congrArg Prod.fst hlater).trans (congrArg Prod.fst hnow).symm

/-! ### Histories -/

/-- Whether an event lets time pass. -/
def Event.isTick : Event → Bool
  | .tick => true
  | _ => false

/-- Nothing but the ticks of a history reaches a held console, and every step
    in it reports the same. -/
theorem Held.replay {c : Console} (held : c.Held) {history : List Event}
    (alone : ∀ e ∈ history, e = .step ∨ e = .tick) :
    (∀ d ∈ c.records history, d = c.step.1) ∧
      c.replay history = c.replay (history.filter Event.isTick) := by
  induction history generalizing c with
  | nil => exact ⟨fun d hd => absurd hd List.not_mem_nil, rfl⟩
  | cons e rest ih =>
      rcases List.forall_mem_cons.mp alone with ⟨hevent, hlater⟩
      rcases hevent with rfl | rfl
      · -- A step leads back to the console it began with.
        have hafter : c.after .step = c := held.step
        rcases ih held hlater with ⟨hrecords, hreplay⟩
        refine ⟨?_, ?_⟩
        · intro d hd
          rw [records, hafter] at hd
          rcases List.mem_cons.mp hd with rfl | hrest
          · rfl
          · exact hrecords d hrest
        · rw [replay_cons, hafter, hreplay, List.filter_cons_of_neg Bool.false_ne_true]
      · rcases ih held.tick hlater with ⟨hrecords, hreplay⟩
        refine ⟨?_, ?_⟩
        · intro d hd
          rw [← held.record_tick]
          exact hrecords d hd
        · rw [List.filter_cons_of_pos rfl, replay_cons, replay_cons]
          exact hreplay

/-! ### Sessions -/

/-- Two consoles differ at most in what time passing changes: the two timers
    and the fade grid. -/
def SameButTime (c d : Console) : Prop :=
  ∃ delay sound fade, d = { c with machine := { c.machine with
    memory := { c.machine.memory with delay := delay, sound := sound }
    display := { c.machine.display with fade := fade } } }

theorem SameButTime.refl (c : Console) : c.SameButTime c :=
  ⟨_, _, _, rfl⟩

theorem SameButTime.trans {c d e : Console} (first : c.SameButTime d) (second : d.SameButTime e) :
    c.SameButTime e := by
  rcases first with ⟨_, _, _, rfl⟩
  rcases second with ⟨delay, sound, fade, rfl⟩
  exact ⟨delay, sound, fade, rfl⟩

theorem sameButTime_tick (c : Console) : c.SameButTime c.tick :=
  ⟨_, _, _, rfl⟩

end Console

namespace Session

/-- Runs a number of cycles, whether or not instructions wait for a key. -/
def persist (interval : Nat) : Nat → Session → Session
  | 0, s => s
  | n + 1, s => persist interval n (s.cycle interval)

theorem console_cycle (interval : Nat) (s : Session) :
    (s.cycle interval).console = s.console.step.2 ∨
      (s.cycle interval).console = s.console.step.2.tick := by
  unfold cycle tickIfDue
  split
  · exact .inr rfl
  · exact .inl rfl

theorem stalled_cycle (interval : Nat) (s : Session) :
    (s.cycle interval).summary.stalled = s.console.step.1.effect.waiting := by
  unfold cycle tickIfDue
  split
  · rfl
  · rfl

/-- A session that stalls stalls at a held console, also if the tick after the
    wait was due. -/
theorem held_cycle {interval : Nat} {s : Session}
    (stalled : (s.cycle interval).summary.stalled = true) :
    (s.cycle interval).console.Held := by
  rw [stalled_cycle] at stalled
  have hheld := Console.held_step stalled
  rcases console_cycle interval s with h | h
  · rw [h]
    exact hheld
  · rw [h]
    exact hheld.tick

/-- Going on from a held console lets time pass and does nothing else. -/
theorem sameButTime_persist (interval n : Nat) {s : Session} (held : s.console.Held) :
    s.console.SameButTime (s.persist interval n).console := by
  induction n generalizing s with
  | zero => exact .refl s.console
  | succ n ih =>
      unfold persist
      rcases console_cycle interval s with h | h
      · -- No tick was due, and the cycle changed nothing.
        have hcycle : (s.cycle interval).console.Held := by
          rw [h, held.step]
          exact held
        have hrest := ih hcycle
        rwa [h, held.step] at hrest
      · -- The cycle came down to its tick.
        have hcycle : (s.cycle interval).console.Held := by
          rw [h, held.step]
          exact held.tick
        have hrest := ih hcycle
        rw [h, held.step] at hrest
        exact (Console.sameButTime_tick s.console).trans hrest

/-- A session agrees with one that goes on. Up to the first wait the two are
    the same, and from there on the console of the first is held. -/
theorem sameButTime_advance (interval n : Nat) {s : Session}
    (held : s.summary.stalled = true → s.console.Held) :
    (s.advance interval n).console.SameButTime (s.persist interval n).console := by
  induction n generalizing s with
  | zero => exact .refl s.console
  | succ n ih =>
      by_cases stalled : s.summary.stalled = true
      · rw [advance, if_pos stalled]
        exact sameButTime_persist interval (n + 1) (held stalled)
      · rw [advance, if_neg stalled, persist]
        exact ih held_cycle

end Session

/-- The session of `Console.run` without the stop at the first wait. -/
def Console.runThrough (c : Console) (cycles perTick : Nat) : Session :=
  Session.persist (max perTick 1) cycles { console := c }

open Console in
/-- If the next step of a reachable console waits for a key, it leaves the
    console as it is. Until a key is pressed or a program is put in, every step
    reports the same wait, and all that comes of a history of steps and ticks
    is what the ticks in it do. A session may therefore stop at its first wait:
    for every console it ends as it would have by going on, but for the timers
    and the fade grid. -/
theorem key_wait_loses_nothing (c : Console) :
    (c.Reachable → c.step.1.effect.waiting = true →
      c.step.2 = c ∧
        ∀ history : List Event, (∀ e ∈ history, e = .step ∨ e = .tick) →
          (∀ d ∈ c.records history, d = c.step.1) ∧
            c.replay history = c.replay (history.filter Event.isTick)) ∧
      ∀ cycles perTick,
        (c.run cycles perTick).console.SameButTime (c.runThrough cycles perTick).console := by
  constructor
  · intro reached waiting
    have held := reached.held waiting
    exact ⟨held.step, fun history alone => held.replay alone⟩
  · intro cycles perTick
    refine Session.sameButTime_advance (max perTick 1) cycles ?_
    -- A session that has not begun has not stalled.
    intro stalled
    exact absurd stalled Bool.false_ne_true

/-- A console whose program stored `F00A` on both sides of the end of memory
    and jumped there. -/
def Console.waitingAtEnd : Console :=
  (Console.new {} 0).replay
    (.load [0x60, 0xF0, 0x61, 0x0A, 0xAF, 0xFF, 0xF1, 0x55, 0x1F, 0xFF] :: .replicate 5 .step)

open Console in
/-- The wait at the last byte of memory is undone across the end. -/
theorem key_wait_loses_nothing_at_end :
    waitingAtEnd.Reachable ∧ waitingAtEnd.step.1.effect.waiting = true ∧
      waitingAtEnd.machine.memory.counter = 0xFFF ∧
      waitingAtEnd.step.2 = waitingAtEnd ∧
      waitingAtEnd.replay [.step, .tick, .step] = waitingAtEnd.replay [.tick] ∧
      (waitingAtEnd.run 9 2).console.SameButTime (waitingAtEnd.runThrough 9 2).console := by
  have reached : waitingAtEnd.Reachable := (Reachable.new {} 0).replay _
  have waiting : waitingAtEnd.step.1.effect.waiting = true := by decide +kernel
  have alone : ∀ e ∈ [Event.step, .tick, .step], e = .step ∨ e = .tick := by simp
  rcases key_wait_loses_nothing waitingAtEnd with ⟨hwait, hsession⟩
  rcases hwait reached waiting with ⟨hstep, hreplay⟩
  refine ⟨reached, waiting, ?_, hstep, ?_, hsession 9 2⟩
  · decide +kernel
  · exact (hreplay _ alone).2

end ChipEight
