import ChipEight.Proofs.Console.Schedule
import ChipEight.Proofs.KeyWait

/-!
# Sessions and Their Schedules

What a session does, said without its loop, and what follows for sessions run
one after the other.

The loop counts the cycles itself, keeps three counters and a flag besides, and
looks at the flag only after the tick. A schedule has none of this. It says
when the ticks come, and the first record in it that waits says where the loop
leaves it; the counters, the console and the trail are then read off the
schedule up to there. `Session.OnSchedule` is this description, and it is kept
by one more cycle, whether the loop makes it or has already stopped. Having
stopped is the easy case, as the first wait of a schedule is also the first wait
of any longer one.

A session begins to count at zero. One that follows another therefore repeats
the rhythm of the first from its beginning, and the two together are a single
session when the first ended where a tick was due.

## Main definitions

* `Session.OnSchedule`: A session has done what its schedule says.
* `Session.followedBy`: Two sessions as one.

## Theorems

* `Session.OnSchedule.cycle`, `Session.OnSchedule.stopped`: One more cycle.
* `Session.OnSchedule.advance`: Any number of cycles.
* `Session.advance_add`: Cycles can be run in two goes.
* `Session.advance_followedBy`: What a session does after another one.
* `session_follows_schedule`: A session is exactly its schedule.
* `sessions_join_at_ticks`: Sessions can be taken apart where a tick is due.
-/

namespace ChipEight

open Console (schedule)

namespace Session

/-! ### A session on its schedule -/

/-- A session that was given a number of cycles has done what the schedule of
    those cycles says, up to the first wait in it. -/
structure OnSchedule (c : Console) (interval cycles : Nat) (s : Session) : Prop where
  executed : s.summary.executed = (c.firstWait? interval cycles).getD cycles
  stalled : s.summary.stalled = (c.firstWait? interval cycles).isSome
  ticks : s.summary.ticks = s.summary.executed / interval
  faults : s.summary.faults =
    (c.records (schedule interval s.summary.executed)).countP (·.effect.fault.isSome)
  console : s.console = c.replay (schedule interval s.summary.executed)
  trail : s.trail.reverse = c.records (schedule interval s.summary.executed)
  held : s.summary.stalled = true → s.console.Held

namespace OnSchedule

theorem start (c : Console) (interval : Nat) : OnSchedule c interval 0 { console := c } where
  executed := rfl
  stalled := rfl
  ticks := (Nat.zero_div interval).symm
  faults := rfl
  console := rfl
  trail := rfl
  held stalled := absurd stalled Bool.false_ne_true

variable {c : Console} {interval n : Nat} {s : Session}

theorem firstWait_of_running (on : OnSchedule c interval n s)
    (running : s.summary.stalled = false) : c.firstWait? interval n = none := by
  have hnever := on.stalled.symm.trans running
  exact Option.not_isSome_iff_eq_none.mp (Bool.eq_false_iff.mp hnever)

/-- A session that has not stalled has run all its cycles. -/
theorem executed_of_running (on : OnSchedule c interval n s)
    (running : s.summary.stalled = false) : s.summary.executed = n := by
  rw [on.executed, on.firstWait_of_running running, Option.getD_none]

/-- A session that has not stalled makes one more cycle. -/
theorem cycle (on : OnSchedule c interval n s) (running : s.summary.stalled = false) :
    OnSchedule c interval (n + 1) (s.cycle interval) := by
  have hexecuted := on.executed_of_running running
  have hconsole : s.console = c.replay (schedule interval n) := by
    rw [on.console, hexecuted]
  -- No instruction has waited before, so the first wait can only be the last.
  have hwait : c.firstWait? interval (n + 1) =
      if s.console.step.1.effect.waiting then some (n + 1) else none := by
    rw [Console.firstWait?_succ, on.firstWait_of_running running, Option.none_or, hconsole]
  have hnumber : (s.cycle interval).summary.executed = n + 1 := by
    rw [cycle_eq, hexecuted]
  have hrecords : c.records (schedule interval (n + 1)) =
      c.records (schedule interval n) ++ [s.console.step.1] := by
    rw [Console.records_schedule_succ, hconsole]
  refine ⟨?executed, ?stalled, ?ticks, ?faults, ?console, ?trail, held_cycle⟩
  case executed =>
    rw [hnumber, hwait]
    split <;> rfl
  case stalled =>
    rw [stalled_cycle, hwait]
    cases s.console.step.1.effect.waiting with
    | true => rfl
    | false => rfl
  case ticks =>
    rw [hnumber, cycle_eq, Nat.succ_div, on.ticks, hexecuted]
    simp only [Nat.dvd_iff_mod_eq_zero]
  case faults =>
    rw [hnumber, hrecords, List.countP_append, List.countP_singleton, cycle_eq, on.faults,
      hexecuted]
  case console =>
    rw [hnumber, Console.replay_schedule_succ, cycle_eq, hexecuted, hconsole]
  case trail =>
    rw [hnumber, hrecords, cycle_eq, List.reverse_cons, on.trail, hexecuted]

/-- A session that has stalled has no use for one more cycle. -/
theorem stopped (on : OnSchedule c interval n s) (stalled : s.summary.stalled = true) :
    OnSchedule c interval (n + 1) s := by
  rw [on.stalled] at stalled
  rcases Option.isSome_iff_exists.mp stalled with ⟨w, hwait⟩
  have hlater : c.firstWait? interval (n + 1) = some w :=
    Console.firstWait?_add c interval n hwait 1
  refine { on with executed := ?_, stalled := ?_ }
  · rw [on.executed, hwait, hlater, Option.getD_some, Option.getD_some]
  · rw [on.stalled, hwait, hlater]

theorem advance (on : OnSchedule c interval n s) (m : Nat) :
    OnSchedule c interval (n + m) (s.advance interval m) := by
  induction m generalizing n s with
  | zero => exact on
  | succ m ih =>
      -- The loop makes its first cycle, or none at all, before the other `m`.
      rw [← Nat.add_assoc, Nat.add_right_comm]
      cases hstalled : s.summary.stalled with
      | true =>
          have hrest := ih (on.stopped hstalled)
          rw [advance_of_stalled hstalled] at hrest ⊢
          exact hrest
      | false =>
          rw [advance_succ hstalled]
          exact ih (on.cycle hstalled)

end OnSchedule

theorem onSchedule_run (c : Console) (cycles perTick : Nat) :
    OnSchedule c (max perTick 1) cycles (c.run cycles perTick) := by
  have hrun := (OnSchedule.start c (max perTick 1)).advance cycles
  rwa [Nat.zero_add] at hrun

/-! ### Sessions in a row -/

/-- Cycles can be run in two goes, and the second does nothing if the first
    stalled. -/
theorem advance_add (interval m n : Nat) (s : Session) :
    s.advance interval (m + n) = (s.advance interval m).advance interval n := by
  induction m generalizing s with
  | zero => rw [Nat.zero_add, advance]
  | succ m ih =>
      cases hstalled : s.summary.stalled with
      | true => rw [advance_of_stalled hstalled, advance_of_stalled hstalled,
          advance_of_stalled hstalled]
      | false =>
          rw [Nat.add_right_comm, advance_succ hstalled, advance_succ hstalled]
          exact ih (s.cycle interval)

end Session

/-- Two summaries as one: the counters add up, and whether the whole stalled is
    a matter of its end. -/
def Summary.followedBy (first second : Summary) : Summary where
  executed := first.executed + second.executed
  ticks := first.ticks + second.ticks
  faults := first.faults + second.faults
  stalled := second.stalled

namespace Session

/-- Two sessions as one. -/
def followedBy (first second : Session) : Session where
  console := second.console
  summary := first.summary.followedBy second.summary
  trail := second.trail ++ first.trail

theorem step_followedBy (first s : Session) :
    (first.followedBy s).step = first.followedBy s.step := by
  dsimp only [step, followedBy, Summary.followedBy]
  simp only [Nat.add_assoc, List.cons_append]

/-- After a number of instructions that is a multiple of the interval, a tick is
    due when it would be due without them. -/
theorem tickIfDue_followedBy {interval : Nat} {first : Session}
    (onTick : interval ∣ first.summary.executed) (s : Session) :
    (first.followedBy s).tickIfDue interval = first.followedBy (s.tickIfDue interval) := by
  have hphase : (first.followedBy s).summary.executed % interval =
      s.summary.executed % interval := by
    rcases onTick with ⟨k, hk⟩
    rw [followedBy, Summary.followedBy, hk, Nat.mul_add_mod]
  unfold tickIfDue
  rw [hphase]
  split <;> rfl

theorem advance_followedBy {interval : Nat} {first : Session}
    (onTick : interval ∣ first.summary.executed) (s : Session) (n : Nat) :
    (first.followedBy s).advance interval n = first.followedBy (s.advance interval n) := by
  induction n generalizing s with
  | zero => rfl
  | succ n ih =>
      cases hstalled : s.summary.stalled with
      | true =>
          have hboth : (first.followedBy s).summary.stalled = true := hstalled
          rw [advance_of_stalled hstalled, advance_of_stalled hboth]
      | false =>
          have hboth : (first.followedBy s).summary.stalled = false := hstalled
          rw [advance_succ hstalled, advance_succ hboth, cycle, step_followedBy,
            tickIfDue_followedBy onTick]
          exact ih (s.cycle interval)

/-- A session that has not stalled, followed by one that is yet to begin. -/
theorem followedBy_start {s : Session} (running : s.summary.stalled = false) :
    s.followedBy { console := s.console } = s := by
  unfold followedBy Summary.followedBy
  -- The flag is taken from the second session, which has not stalled either.
  rw [← running]
  rfl

end Session

/-- A session is exactly its schedule, with a tick after every `perTick`
    instructions. It runs up to the first instruction that waits for a key, or
    to its end if there is none, and its counters, its records and its console
    are those of the schedule up to that instruction and the tick that may be
    due after it. If it stalls, no key is pressed. -/
theorem session_follows_schedule (c : Console) (cycles perTick : Nat) :
    Session.OnSchedule c (max perTick 1) cycles (c.run cycles perTick) ∧
      ((c.run cycles perTick).summary.stalled = true →
        ∀ key, (c.run cycles perTick).console.machine.keypad.isPressed key = false) := by
  have on := Session.onSchedule_run c cycles perTick
  refine ⟨on, ?_⟩
  intro stalled
  exact (Machine.waits_of_waiting (on.held stalled).waiting).2

/-- A console whose program sets a register, returns with nothing to return to,
    and then waits for a key. -/
def Console.waitsThird : Console :=
  (Console.new {} 0).replay [.load [0x60, 0x05, 0x00, 0xEE, 0xF1, 0x0A]]

open Console in
/-- A session that is given nine cycles makes three, with the tick after the
    second and none after the wait. -/
theorem session_follows_schedule_to_third :
    waitsThird.firstWait? 2 9 = some 3 ∧
      (waitsThird.run 9 2).summary =
        { executed := 3, ticks := 1, faults := 1, stalled := true } ∧
      (waitsThird.run 9 2).console = waitsThird.replay [.step, .step, .tick, .step] ∧
      ∀ key, (waitsThird.run 9 2).console.machine.keypad.isPressed key = false := by
  have hsummary : (waitsThird.run 9 2).summary =
      { executed := 3, ticks := 1, faults := 1, stalled := true } := by
    decide +kernel
  have hwait : waitsThird.firstWait? 2 9 = some 3 := by
    decide +kernel
  rcases session_follows_schedule waitsThird 9 2 with ⟨on, released⟩
  have hconsole := on.console
  rw [hsummary] at hconsole
  exact ⟨hwait, hsummary, hconsole, released (congrArg Summary.stalled hsummary)⟩

/-- Sessions can be taken apart where a tick is due. If the first session did
    not stall and its cycles are a multiple of the interval, a second one from
    the console it left makes up the rest of a session of all the cycles. If it
    stalled, there is nothing to make up. -/
theorem sessions_join_at_ticks (c : Console) (m n perTick : Nat) :
    ((c.run m perTick).summary.stalled = false → max perTick 1 ∣ m →
      c.run (m + n) perTick =
        (c.run m perTick).followedBy ((c.run m perTick).console.run n perTick)) ∧
      ((c.run m perTick).summary.stalled = true → c.run (m + n) perTick = c.run m perTick) := by
  have hgoes : c.run (m + n) perTick = (c.run m perTick).advance (max perTick 1) n :=
    Session.advance_add (max perTick 1) m n { console := c }
  constructor
  · intro running multiple
    have hexecuted := (Session.onSchedule_run c m perTick).executed_of_running running
    have onTick : max perTick 1 ∣ (c.run m perTick).summary.executed := by
      rwa [hexecuted]
    have hrest := Session.advance_followedBy onTick { console := (c.run m perTick).console } n
    rw [Session.followedBy_start running] at hrest
    rw [hgoes, hrest]
    -- The second session is the rest of the cycles, counted from zero.
    rfl
  · intro stalled
    rw [hgoes, Session.advance_of_stalled stalled]

open Console in
/-- Two cycles with the tick after them do not stall. The second session begins
    with the wait, and a third one would add nothing to the two. -/
theorem sessions_join_at_ticks_before_wait :
    (waitsThird.run 2 2).summary.stalled = false ∧ max 2 1 ∣ 2 ∧
      waitsThird.run (2 + 7) 2 =
        (waitsThird.run 2 2).followedBy ((waitsThird.run 2 2).console.run 7 2) ∧
      (waitsThird.run 3 2).summary.stalled = true ∧
      waitsThird.run (3 + 6) 2 = waitsThird.run 3 2 := by
  have running : (waitsThird.run 2 2).summary.stalled = false := by
    decide +kernel
  have multiple : max 2 1 ∣ 2 := by
    decide
  have stalled : (waitsThird.run 3 2).summary.stalled = true := by
    decide +kernel
  have hjoin := (sessions_join_at_ticks waitsThird 2 7 2).1 running multiple
  have hstop := (sessions_join_at_ticks waitsThird 3 6 2).2 stalled
  exact ⟨running, multiple, hjoin, stalled, hstop⟩

/-- Taken apart between two ticks, sessions lose the one that was on its way. -/
example :
    (Console.waitsThird.run 2 2).summary.ticks = 1 ∧
      ((Console.waitsThird.run 1 2).followedBy
        ((Console.waitsThird.run 1 2).console.run 1 2)).summary.ticks = 0 := by
  decide +kernel

end ChipEight
