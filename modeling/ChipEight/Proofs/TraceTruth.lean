import ChipEight.Proofs.Console.Actions
import ChipEight.Proofs.Text.Statements

/-!
# Whether Traces Tell the Truth

What a trace says about registers, and when it is wrong.

A trace is the one thing to look at when a program goes wrong, so what it says
must be what the machine held and holds. The values are collected by the
instruction itself. Most do so before they change anything or after they have
changed everything, and there is nothing to go wrong. The arithmetic with a flag
writes two registers and looks in between, which makes a difference when both are
the same one. As long as VF is written last, the change shown before it is the
first half of the truth and the flag the second. Where a dialect has the
differences written last, the change is looked at when VF is overwritten already,
so the flag is shown for what VF held before; and it is shown once more after it,
for what VF holds now, which is the difference.

`Machine.Misreports` is the exact condition: a difference is put into VF after
the flag, and the flag was not by chance what VF held before and holds after.
Statements about anything but registers are true in any case.

## Main definitions

* `Decoded.Adds`: The values that a step adds to a description.
* `Subject.value?`: What a part of a machine holds.
* `Statement.lastOn?`: The last value that is stated for a part.
* `RegistersTold`, `OthersTold`: Statements that are true of a step.
* `Machine.Misreports`: The next step will be told wrong.

## Theorems

* `Machine.told_difference`: Differences in both orders of writing.
* `Machine.othersTold_perform`, `Machine.registersTold_perform`: What
  instructions tell.
* `trace_truthful_unless_flag_first`: What traces tell.
* `flag_first_misreported`: A trace that is wrong about VF, twice.
-/

namespace ChipEight

/-- The values that a step adds to the description of its word. -/
def Decoded.Adds (dry wet : Decoded) (values : String) : Prop :=
  wet.trace = if values = "" then dry.trace else dry.trace ++ " ; " ++ values

/-- What a part of a machine holds. Without a return address there is none. -/
def Subject.value? (m : Machine) : Subject → Option Nat
  | register x => some (m.reg x).toNat
  | counter => some m.memory.counter.toNat
  | index => some m.memory.index.toNat
  | delay => some m.memory.delay.toNat
  | sound => some m.memory.sound.toNat
  | returnAddress => m.memory.stack.head?.map UInt16.toNat
  | depth => some m.memory.stack.length

/-- Whether a part of a machine is a register. -/
def Subject.isRegister : Subject → Bool
  | register _ => true
  | _ => false

/-- The last value that is stated for a part of a machine. -/
def Statement.lastOn? (subject : Subject) : List Statement → Option Nat
  | [] => none
  | s :: rest => (lastOn? subject rest).or (if s.subject = subject then some s.value else none)

variable {before after : Machine} {said : List Statement}

/-- What is stated about registers is true: what one is said to have held it held
    before, and what is said of it last it holds after. -/
structure RegistersTold (before after : Machine) (said : List Statement) : Prop where
  held : ∀ s ∈ said, s.subject.isRegister = true → ∀ n, s.before = some n →
    s.subject.value? before = some n
  last : ∀ x n, Statement.lastOn? (.register x) said = some n → (after.reg x).toNat = n

/-- What is stated about other parts is true, and of all that is stated, not just
    of the last. -/
structure OthersTold (before after : Machine) (said : List Statement) : Prop where
  held : ∀ s ∈ said, s.subject.isRegister = false → ∀ n, s.before = some n →
    s.subject.value? before = some n
  now : ∀ s ∈ said, s.subject.isRegister = false → s.subject.value? after = some s.value

theorem Statement.exists_of_lastOn? {subject : Subject} {n : Nat}
    (last : lastOn? subject said = some n) : ∃ s ∈ said, s.subject = subject ∧ s.value = n := by
  induction said with
  | nil => cases last
  | cons s rest ih =>
      rcases Option.or_eq_some_iff.mp last with hrest | ⟨-, hfirst⟩
      · rcases ih hrest with ⟨t, ht, found⟩
        exact ⟨t, List.mem_cons_of_mem s ht, found⟩
      · rcases Option.ite_none_right_eq_some.mp hfirst with ⟨hsubject, hvalue⟩
        exact ⟨s, List.mem_cons_self, hsubject, Option.some.inj hvalue⟩

/-! ### Statements about registers and about others -/

theorem othersTold_of_registers
    (registers : said.all (fun s => s.subject.isRegister) = true) :
    OthersTold before after said where
  held s hs other := absurd (List.all_eq_true.mp registers s hs) (by rw [other]; decide)
  now s hs other := absurd (List.all_eq_true.mp registers s hs) (by rw [other]; decide)

theorem registersTold_of_others (others : said.all (fun s => !s.subject.isRegister) = true) :
    RegistersTold before after said where
  held s hs register := absurd (List.all_eq_true.mp others s hs) (by rw [register]; decide)
  last x n hlast := by
    rcases Statement.exists_of_lastOn? hlast with ⟨s, hs, hsubject, -⟩
    have hother := List.all_eq_true.mp others s hs
    rw [hsubject] at hother
    cases hother

/-- A statement about two moments. -/
theorem othersTold_singleton {s : Statement}
    (held : ∀ n, s.before = some n → s.subject.value? before = some n)
    (now : s.subject.value? after = some s.value) : OthersTold before after [s] where
  held t ht _ n hn := by
    rw [List.mem_singleton.mp ht] at hn ⊢
    exact held n hn
  now t ht _ := by
    rw [List.mem_singleton.mp ht]
    exact now

/-- Statements that say nothing of the time before. -/
theorem othersTold_of_values
    (values : ∀ s ∈ said, s.before = none ∧ s.subject.value? after = some s.value) :
    OthersTold before after said where
  held s hs _ n hn := by
    rw [(values s hs).1] at hn
    cases hn
  now s hs _ := (values s hs).2

theorem registersTold_of_values
    (values : ∀ s ∈ said, s.before = none ∧ s.subject.value? after = some s.value) :
    RegistersTold before after said where
  held s hs _ n hn := by
    rw [(values s hs).1] at hn
    cases hn
  last x n hlast := by
    rcases Statement.exists_of_lastOn? hlast with ⟨s, hs, hsubject, rfl⟩
    have hvalue := (values s hs).2
    rw [hsubject] at hvalue
    exact Option.some.inj hvalue

/-- A single change. -/
theorem registersTold_change {c : Assignment} (held : before.reg c.register = c.before)
    (now : after.reg c.register = c.after) :
    RegistersTold before after [Detail.changeStatement c] where
  held s hs _ n hn := by
    rw [List.mem_singleton.mp hs] at hn ⊢
    rw [← hn]
    exact congrArg (fun value : UInt8 => some value.toNat) held
  last x n hlast := by
    rcases Statement.exists_of_lastOn? hlast with ⟨s, hs, hsubject, rfl⟩
    rw [List.mem_singleton.mp hs] at hsubject ⊢
    cases hsubject
    exact congrArg UInt8.toNat now

/-- A change and then the flag. What is said of the register counts for the time
    after only if it is not the flag register. -/
theorem registersTold_changeThenFlag_iff {c : Assignment} {flag : UInt8} :
    RegistersTold before after
        [Detail.changeStatement c, ⟨.register flagRegister, none, flag.toNat⟩] ↔
      before.reg c.register = c.before ∧ after.reg flagRegister = flag ∧
        (c.register ≠ flagRegister → after.reg c.register = c.after) := by
  -- The flag comes last, so it is asked for first.
  have hlast : ∀ x, Statement.lastOn? (.register x)
        [Detail.changeStatement c, ⟨.register flagRegister, none, flag.toNat⟩] =
      if flagRegister = x then some flag.toNat
      else if c.register = x then some c.after.toNat else none := by
    intro x
    simp only [Statement.lastOn?, Detail.changeStatement, Subject.register.injEq]
    by_cases hx : flagRegister = x <;> simp [hx]
  constructor
  · intro told
    have hheld := told.held (Detail.changeStatement c) List.mem_cons_self rfl _ rfl
    have hflag := told.last flagRegister flag.toNat
    refine ⟨UInt8.toNat_inj.mp (Option.some.inj hheld), UInt8.toNat_inj.mp (hflag ?_), ?_⟩
    · rw [hlast, if_pos rfl]
    · intro other
      refine UInt8.toNat_inj.mp (told.last c.register c.after.toNat ?_)
      rw [hlast, if_neg (Ne.symm other), if_pos rfl]
  · rintro ⟨hheld, hflag, hother⟩
    refine ⟨?_, fun x n hn => ?_⟩
    · rintro s hs - n hn
      rcases List.mem_cons.mp hs with rfl | hs
      · rw [← hn]
        exact congrArg (fun value : UInt8 => some value.toNat) hheld
      · rw [List.mem_singleton.mp hs] at hn
        cases hn
    · rw [hlast] at hn
      split at hn
      case isTrue hx =>
        cases hn
        rw [← hx, hflag]
      case isFalse hx =>
        rcases Option.ite_none_right_eq_some.mp hn with ⟨rfl, hvalue⟩
        rw [hother (Ne.symm hx)]
        exact Option.some.inj hvalue

/-! ### What instructions tell -/

namespace Machine

variable (m : Machine)

/-- The flag of a difference: whether nothing had to be borrowed. -/
def noBorrow (minuend subtrahend : UInt8) : UInt8 :=
  if subtrahend < minuend then 1 else 0

theorem told_assign (x : Register) (value : UInt8) :
    RegistersTold m (m.assign x value).2 (m.assign x value).1.detail.statements :=
  registersTold_change rfl (m.reg_setReg_self x value)

theorem told_assignThenFlag (x : Register) (value flag : UInt8) :
    RegistersTold m (m.assignThenFlag x value flag).2
      (m.assignThenFlag x value flag).1.detail.statements := by
  refine registersTold_changeThenFlag_iff.mpr ⟨rfl, reg_setFlag_self _ _, fun other => ?_⟩
  exact (reg_setFlag_of_ne _ other flag).trans (m.reg_setReg_self x value)

/-- The flag is shown as what the register held before and as what VF holds after.
    For another register than VF both is true. -/
theorem told_flagThenAssign_iff (x : Register) (value flag : UInt8) :
    RegistersTold m (m.flagThenAssign x value flag).2
        (m.flagThenAssign x value flag).1.detail.statements ↔
      (x = flagRegister → m.reg flagRegister = flag ∧ value = flag) := by
  refine registersTold_changeThenFlag_iff.trans ?_
  change m.reg x = (m.setFlag flag).reg x ∧
      ((m.setFlag flag).setReg x value).reg flagRegister = flag ∧
      (x ≠ flagRegister → ((m.setFlag flag).setReg x value).reg x = value) ↔ _
  rw [reg_setReg_self]
  -- Only for VF do the two writes meet.
  by_cases other : x = flagRegister
  · subst other
    rw [reg_setReg_self, reg_setFlag_self]
    exact ⟨fun ⟨held, now, _⟩ _ => ⟨held, now⟩, fun h => ⟨(h rfl).1, (h rfl).2, fun _ => rfl⟩⟩
  · have hflag : ((m.setFlag flag).setReg x value).reg flagRegister = flag :=
      ((Memory.reg_setReg ..).trans (if_neg other)).trans (m.reg_setFlag_self flag)
    rw [reg_setFlag_of_ne m other, hflag]
    exact iff_of_true ⟨rfl, rfl, fun _ => rfl⟩ fun h => absurd h other

/-- The machine shows a difference wrong if it puts it into VF after the flag,
    unless the flag is what VF held before and holds after. -/
theorem told_difference_iff (x : Register) (minuend subtrahend : UInt8) :
    RegistersTold m (m.difference x minuend subtrahend).2
        (m.difference x minuend subtrahend).1.detail.statements ↔
      (m.dialect.flagFirst = true → x = flagRegister →
        m.reg flagRegister = noBorrow minuend subtrahend ∧
          minuend - subtrahend = noBorrow minuend subtrahend) := by
  by_cases first : m.dialect.flagFirst = true
  · rw [difference, if_pos first]
    exact (m.told_flagThenAssign_iff ..).trans ⟨fun h _ => h, fun h => h first⟩
  · rw [difference, if_neg first]
    exact iff_of_true (m.told_assignThenFlag ..) fun h => absurd h first

end Machine

/-- The numbers an instruction puts the difference of into VF. -/
def Instruction.flagDifference? (m : Machine) : Instruction → Option (UInt8 × UInt8)
  | subtract x y => if x = flagRegister then some (m.reg x, m.reg y) else none
  | subtractFrom x y => if x = flagRegister then some (m.reg y, m.reg x) else none
  | _ => none

namespace Machine

/-- The machine puts a difference into VF after the flag, and the flag is not what
    VF held before and holds after. -/
def Misreports (m : Machine) (i : Instruction) : Prop :=
  m.dialect.flagFirst = true ∧ ∃ minuend subtrahend,
    i.flagDifference? m = some (minuend, subtrahend) ∧
      ¬(m.reg flagRegister = noBorrow minuend subtrahend ∧
        minuend - subtrahend = noBorrow minuend subtrahend)

theorem not_misreports_iff {m : Machine} {i : Instruction} {x : Register}
    {minuend subtrahend : UInt8}
    (difference : i.flagDifference? m =
      if x = flagRegister then some (minuend, subtrahend) else none) :
    ¬m.Misreports i ↔ (m.dialect.flagFirst = true → x = flagRegister →
      m.reg flagRegister = noBorrow minuend subtrahend ∧
        minuend - subtrahend = noBorrow minuend subtrahend) := by
  rw [Misreports, difference]
  constructor
  · intro fine first other
    exact Decidable.byContradiction fun wrong =>
      fine ⟨first, minuend, subtrahend, if_pos other, wrong⟩
  · rintro told ⟨first, a, b, hsome, wrong⟩
    rcases Option.ite_none_right_eq_some.mp hsome with ⟨other, hpair⟩
    cases hpair
    exact wrong (told first other)

/-- What a skip instruction tells is what the registers hold. -/
theorem told_skipOn (xs : List Register) (condition : Bool) :
    RegistersTold m (m.skipOn xs condition).2 (m.skipOn xs condition).1.detail.statements := by
  refine registersTold_of_values fun s hs => ?_
  rcases List.mem_map.mp hs with ⟨o, ho, rfl⟩
  rcases List.mem_map.mp ho with ⟨x, -, rfl⟩
  rw [skipOn, skipIf_frame]
  exact ⟨rfl, rfl⟩

theorem told_draw (x y : Register) (n : Nibble) :
    RegistersTold m (m.draw x y n).2 (m.draw x y n).1.detail.statements := by
  have hbit : ∀ b : Bool, (if b then (1 : UInt8) else 0).toNat = b.toNat := by decide
  refine registersTold_of_values fun s hs => ?_
  rw [List.mem_singleton.mp hs]
  refine ⟨rfl, congrArg some ?_⟩
  exact (congrArg UInt8.toNat (reg_setFlag_self _ _)).trans (hbit _)

theorem told_awaitKey (x : Register) :
    RegistersTold m (m.awaitKey x).2 (m.awaitKey x).1.detail.statements := by
  cases hkey : m.keypad.firstPressed with
  | none =>
      rw [awaitKey, hkey]
      exact registersTold_of_others rfl
  | some key =>
      rw [awaitKey, hkey]
      exact registersTold_change rfl (m.reg_setReg_self x key.toByte)

/-- What an instruction tells about registers is true unless it is a difference in
    VF. -/
theorem registersTold_perform_iff (m : Machine) (i : Instruction) :
    RegistersTold m (m.perform i).2 (m.perform i).1.detail.statements ↔ ¬m.Misreports i := by
  have hfine : i.flagDifference? m = none → ¬m.Misreports i := by
    rintro hnone ⟨-, _, _, hsome, -⟩
    rw [hnone] at hsome
    cases hsome
  cases i with
  | subtract x y | subtractFrom x y =>
      exact (m.told_difference_iff ..).trans (not_misreports_iff rfl).symm
  | setByte | addByte | copy | or | and | xor | readDelay =>
      exact iff_of_true (m.told_assign ..) (hfine rfl)
  | random x k =>
      exact iff_of_true (registersTold_change rfl (reg_setReg_self ..)) (hfine rfl)
  | add | shiftRight | shiftLeft =>
      exact iff_of_true (m.told_assignThenFlag ..) (hfine rfl)
  | skipIfByte | skipUnlessByte | skipIfSame | skipUnlessSame =>
      exact iff_of_true (m.told_skipOn ..) (hfine rfl)
  | awaitKey => exact iff_of_true (m.told_awaitKey _) (hfine rfl)
  | draw => exact iff_of_true (m.told_draw ..) (hfine rfl)
  | ret =>
      refine iff_of_true (registersTold_of_others ?_) (hfine rfl)
      rw [perform, ret_eq]
      cases m.memory.stack <;> rfl
  | _ => exact iff_of_true (registersTold_of_others rfl) (hfine rfl)

/-- What an instruction tells about anything else is true, also if something
    happened before it that left I alone. A return tells the address it found,
    which is where it leads as long as addresses are in range. -/
theorem othersTold_perform {m before : Machine} (range : m.memory.InRange)
    (index : before.memory.index = m.memory.index) (i : Instruction) :
    OthersTold before (m.perform i).2 (m.perform i).1.detail.statements := by
  cases i with
  | ret =>
      cases hstack : m.memory.stack with
      | nil =>
          rw [perform, ret_of_empty hstack]
          exact othersTold_of_values (List.forall_mem_singleton.mpr ⟨rfl, rfl⟩)
      | cons a rest =>
          have ha : a.toNat < 4096 := range.stack a (by rw [hstack]; exact List.mem_cons_self)
          rw [perform, ret_of_cons hstack]
          exact othersTold_of_values (List.forall_mem_singleton.mpr
            ⟨rfl, congrArg (fun a : Address => some a.toNat) (wrapAddress_of_lt ha)⟩)
  | awaitKey x =>
      cases hkey : m.keypad.firstPressed with
      | none =>
          rw [perform, awaitKey, hkey]
          exact othersTold_of_values (List.forall_mem_singleton.mpr ⟨rfl, rfl⟩)
      | some key =>
          rw [perform, awaitKey, hkey]
          exact othersTold_of_registers rfl
  | call a =>
      -- The only instruction that makes two statements, and none on a register.
      exact othersTold_of_values (List.forall_mem_cons.mpr
        ⟨⟨rfl, rfl⟩, List.forall_mem_singleton.mpr ⟨rfl, rfl⟩⟩)
  | jumpOffset | setDelay | setSound | glyph | save | restore | unknown =>
      exact othersTold_of_values (List.forall_mem_singleton.mpr ⟨rfl, rfl⟩)
  | addIndex =>
      refine othersTold_singleton (fun n hn => ?_) rfl
      rw [← hn]
      exact congrArg (fun a : Address => some a.toNat) index
  | subtract | subtractFrom =>
      rw [perform, difference_eq]
      exact othersTold_of_registers rfl
  | _ => exact othersTold_of_registers rfl

/-- To fetch an instruction changes no register. -/
theorem registersTold_fetched_iff {m : Machine} :
    RegistersTold m.fetched after said ↔ RegistersTold m after said := by
  have hsame : ∀ s : Subject, s.isRegister = true → s.value? m.fetched = s.value? m := by
    intro s register
    cases s with
    | register x => rfl
    | _ => cases register
  constructor
  · intro told
    exact ⟨fun s hs register n hn => (hsame _ register).symm.trans (told.held s hs register n hn),
      told.last⟩
  · intro told
    exact ⟨fun s hs register n hn => (hsame _ register).trans (told.held s hs register n hn),
      told.last⟩

theorem misreports_fetched_iff (m : Machine) (i : Instruction) :
    m.fetched.Misreports i ↔ m.Misreports i := by
  cases i <;> rfl

end Machine

namespace Console

theorem explainAt_counter (c : Console) :
    c.explainAt c.machine.memory.counter = .ofWord c.machine.dialect c.machine.nextWord :=
  rfl

/-- A step adds to the description of its instruction the text of what it tells. -/
theorem adds_step (c : Console) :
    (c.explainAt c.machine.memory.counter).Adds c.step.1
      (c.machine.fetched.perform c.machine.next).1.detail.text := by
  have hstep : c.step.1 = (Decoded.ofWord c.machine.dialect c.machine.nextWord).withOutcome
      (c.machine.fetched.perform c.machine.next).1 := rfl
  rw [explainAt_counter, hstep, Decoded.Adds, Decoded.withOutcome, Decoded.suffix]
  split
  · exact String.append_empty
  · exact String.append_assoc.symm

end Console

/-- The values that a step adds to the description of its instruction are true of
    everything but registers. They are true of the registers as well, what they
    held before and what was put there last, exactly if no difference is put into
    VF after its flag, or if nobody can tell. -/
theorem trace_truthful_unless_flag_first {c : Console} (reached : c.Reachable) :
    ∃ values, (c.explainAt c.machine.memory.counter).Adds c.step.1 values ∧
      OthersTold c.machine c.step.2.machine (statements values) ∧
      (RegistersTold c.machine c.step.2.machine (statements values) ↔
        ¬c.machine.Misreports c.machine.next) := by
  have hrange : c.machine.fetched.memory.InRange := reached.inRange.advance
  have hindex : c.machine.memory.index = c.machine.fetched.memory.index := rfl
  refine ⟨_, c.adds_step, ?_, ?_⟩
  · rw [statements_text]
    exact Machine.othersTold_perform hrange hindex c.machine.next
  · rw [statements_text, ← Machine.misreports_fetched_iff]
    exact Machine.registersTold_fetched_iff.symm.trans
      (c.machine.fetched.registersTold_perform_iff c.machine.next)

/-- A console whose next instruction subtracts 0x10 from the 0x30 in VF, in the
    dialect that writes the flag first. -/
def Console.misreporting : Console :=
  (Console.new { dialect := { flagFirst := true } } 0).replay
    [.load [0x6F, 0x30, 0x62, 0x10, 0x8F, 0x25], .step, .step]

open Console in
/-- What the trace of that step says of anything but registers is true, and what it
    says of VF is not. -/
theorem trace_truthful_unless_flag_first_when_misreporting :
    misreporting.Reachable ∧
      ∃ values, (misreporting.explainAt misreporting.machine.memory.counter).Adds
          misreporting.step.1 values ∧
        OthersTold misreporting.machine misreporting.step.2.machine (statements values) ∧
        ¬RegistersTold misreporting.machine misreporting.step.2.machine (statements values) := by
  have reached : misreporting.Reachable := (Reachable.new _ _).replay _
  have wrong : misreporting.machine.Misreports misreporting.machine.next :=
    ⟨by decide +kernel, 0x30, 0x10, by decide +kernel, by decide +kernel⟩
  rcases trace_truthful_unless_flag_first reached with ⟨values, adds, others, registers⟩
  exact ⟨reached, values, adds, others, fun told => registers.mp told wrong⟩

open Console in
/-- VF held 0x30 and holds the difference, 0x20. Its flag is shown in both places. -/
theorem flag_first_misreported :
    misreporting.Reachable ∧
      misreporting.step.1.trace =
        "8F25  SUB VF, V2         ; VF -= V2; VF = no borrow ; VF: 0x01 -> 0x20, VF = 1" ∧
      misreporting.machine.reg 0xF = 0x30 ∧ misreporting.step.2.machine.reg 0xF = 0x20 ∧
      ¬RegistersTold misreporting.machine misreporting.step.2.machine
        (statements "VF: 0x01 -> 0x20, VF = 1") := by
  refine ⟨(Reachable.new _ _).replay _, by decide +kernel, by decide +kernel, by decide +kernel, ?_⟩
  intro told
  have hlast : (misreporting.step.2.machine.reg 0xF).toNat = 1 :=
    told.last 0xF 1 (by decide +kernel)
  exact absurd hlast (by decide +kernel)

end ChipEight
