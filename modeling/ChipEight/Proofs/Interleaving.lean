import ChipEight.Proofs.Encoding
import ChipEight.Proofs.FadingUnobserved
import ChipEight.Proofs.Machine.Surroundings

/-!
# Interleaving Host and Program

A host lets time pass and works the keys while a program runs, and it does not
choose the instruction that happens to be next. So it matters that most
instructions do not care.

A tick counts the timers down and lets the fade grid decay. The first concerns
three instructions, the one that reads a timer and the two that set one. The
second concerns none, but it does not commute with drawing: a pixel erased
before the tick fades a little more than one erased after it. That is why the
order of a tick and an instruction can be seen in the fade grid, and nowhere
else. What happens to the keypad concerns the three instructions that look at it
and is otherwise not seen at all.

`Console.Independent` says of two events that neither looks at what the other
does. Exchanging such neighbours in a history changes no record, and this can
be repeated: whatever order the host's events arrive in, as long as they pass
only instructions that they do not concern, the program runs in the same way.
After an exchange the fade grids may differ, so the rest of the history is run
by two consoles and not by one. That fading is never observed carries the
argument over this.

## Main definitions

* `Word.UsesTimers`, `Word.AsksKeys`: Words that look at timers or keys.
* `Console.SameButFade`: Equal but for the fade grid.
* `Console.Independent`: Neither of two events looks at what the other does.
* `Console.Commute`: Two events report the same and lead to the same in either
  order.
* `Console.Reordered`: Histories that come of each other by exchanging
  independent neighbours.

## Theorems

* `Console.lockstep_sameButFade`: Events keep consoles equal but for the fade
  grid.
* `Console.step_tick`, `Console.step_onKeypad`: A step after a host event.
* `Console.Independent.commute`: Independent events commute.
* `Console.Reordered.replay`: Reordered histories report the same and lead to the
  same.
* `host_events_commute`: Host events commute with steps that do not look at them.
-/

namespace ChipEight

/-! ### Words -/

namespace Word

/-- `FX07`, `FX15` and `FX18`: words that read a timer or set one. -/
def UsesTimers (w : Word) : Prop :=
  w.family = 0xF ∧ w.byte ∈ [0x07, 0x15, 0x18]

/-- `EX9E`, `EXA1` and `FX0A`: words that look at the keypad. -/
def AsksKeys (w : Word) : Prop :=
  w.family = 0xE ∧ w.byte ∈ [0x9E, 0xA1] ∨ w.family = 0xF ∧ w.byte = 0x0A

instance (w : Word) : Decidable w.UsesTimers :=
  inferInstanceAs (Decidable (_ ∧ _))

instance (w : Word) : Decidable w.AsksKeys :=
  inferInstanceAs (Decidable (_ ∨ _))

theorem byte_ofDigits (a b c d : Nibble) :
    (ofDigits a b c d).byte = UInt8.ofNat (c.val * 16 + d.val) := by
  apply UInt8.toNat_inj.mp
  simp only [toNat_byte, toNat_ofDigits, UInt8.toNat_ofNat']
  omega

end Word

namespace Instruction

theorem usesTimers_word (x : Register) :
    (readDelay x).word.UsesTimers ∧ (setDelay x).word.UsesTimers ∧
      (setSound x).word.UsesTimers := by
  simp only [Word.UsesTimers, word, Word.family_ofDigits, Word.byte_ofDigits]
  decide

theorem asksKeys_word {i : Instruction} (asks : i.AsksKeys) : i.word.AsksKeys := by
  cases i with
  | skipIfKey | skipUnlessKey | awaitKey =>
      simp only [Word.AsksKeys, word, Word.family_ofDigits, Word.byte_ofDigits]
      decide
  | _ => exact asks.elim

theorem delayAfter_of_ne {i : Instruction} (other : ∀ x, i ≠ .setDelay x) (m : Machine) :
    i.delayAfter m = m.memory.delay := by
  cases i with
  | setDelay x => exact absurd rfl (other x)
  | _ => rfl

theorem soundAfter_of_ne {i : Instruction} (other : ∀ x, i ≠ .setSound x) (m : Machine) :
    i.soundAfter m = m.memory.sound := by
  cases i with
  | setSound x => exact absurd rfl (other x)
  | _ => rfl

end Instruction

/-! ### Steps -/

namespace Machine

variable {m : Machine}

theorem next_of_not_usesTimers (unused : ¬ m.nextWord.UsesTimers) (x : Register) :
    m.next ≠ .readDelay x ∧ m.next ≠ .setDelay x ∧ m.next ≠ .setSound x := by
  have hword : m.next.word = m.nextWord := Instruction.word_decode m.nextWord
  rcases Instruction.usesTimers_word x with ⟨hread, hdelay, hsound⟩
  rw [← hword] at unused
  refine ⟨fun h => ?_, fun h => ?_, fun h => ?_⟩
  · exact unused (h ▸ hread)
  · exact unused (h ▸ hdelay)
  · exact unused (h ▸ hsound)

/-- The timers of a machine, set to other values. -/
def withTimers (m : Machine) (delay sound : UInt8) : Machine :=
  { m with memory := { m.memory with delay := delay, sound := sound } }

/-- A step with other timers, on a word that does not use them. -/
theorem step_withTimers (unused : ¬ m.nextWord.UsesTimers) (delay sound : UInt8) :
    (m.withTimers delay sound).step = (m.step.1, m.step.2.withTimers delay sound) := by
  have hnext := next_of_not_usesTimers unused
  have hstep := step_withSurroundings (m := m)
    (s := { m.surroundings with delay := delay, sound := sound })
    (fun x reads => absurd reads (hnext x).1) (fun _ => rfl) (m.next.disputed_self m.dialect)
  have hafter : m.next.surroundingsAfter (m.fetched.withSurroundings
      { m.surroundings with delay := delay, sound := sound }) =
        { m.step.2.surroundings with delay := delay, sound := sound } := by
    rw [surroundings_step, Instruction.surroundingsAfter,
      Instruction.delayAfter_of_ne (fun x => (hnext x).2.1),
      Instruction.soundAfter_of_ne (fun x => (hnext x).2.2)]
    rfl
  rw [hafter] at hstep
  exact hstep

/-- A word that does not use the timers leaves them as they are. -/
theorem timers_step (unused : ¬ m.nextWord.UsesTimers) :
    m.step.2.memory.delay = m.memory.delay ∧ m.step.2.memory.sound = m.memory.sound := by
  have hnext := next_of_not_usesTimers unused
  have hstep := m.surroundings_step
  constructor
  · exact (congrArg Surroundings.delay hstep).trans
      (Instruction.delayAfter_of_ne (fun x => (hnext x).2.1) m.fetched)
  · exact (congrArg Surroundings.sound hstep).trans
      (Instruction.soundAfter_of_ne (fun x => (hnext x).2.2) m.fetched)

/-- A step with another keypad, on a word that does not look at it. -/
theorem step_withKeypad (unasked : ¬ m.nextWord.AsksKeys) (keypad : Keypad) :
    ({ m with keypad := keypad } : Machine).step =
      (m.step.1, { m.step.2 with keypad := keypad }) := by
  have hword : m.next.word = m.nextWord := Instruction.word_decode m.nextWord
  rw [← hword] at unasked
  have hstep := step_withSurroundings (m := m) (s := { m.surroundings with keypad := keypad })
    (fun _ _ => rfl) (fun asks => absurd (Instruction.asksKeys_word asks) unasked)
    (m.next.disputed_self m.dialect)
  have hafter : m.next.surroundingsAfter (m.fetched.withSurroundings
      { m.surroundings with keypad := keypad }) =
        { m.step.2.surroundings with keypad := keypad } := by
    rw [surroundings_step]
    rfl
  rw [hafter] at hstep
  exact hstep

end Machine

/-! ### The fade grid apart -/

namespace Display

/-- Two displays differ at most in the fade grid. -/
def SameButFade (d e : Display) : Prop :=
  ∃ fade, e = { d with fade := fade }

theorem sameButFade_iff {d e : Display} :
    d.SameButFade e ↔ d.SameButFading e ∧ e.fading = d.fading := by
  constructor
  · rintro ⟨fade, rfl⟩
    exact ⟨⟨fade, _, rfl⟩, rfl⟩
  · rintro ⟨⟨fade, _, rfl⟩, rfl⟩
    exact ⟨fade, rfl⟩

/-- Drawing respects the relation, since it respects fading as a whole and
    changes no settings. -/
theorem respected_sameButFade : Respected SameButFade where
  resolution same := respected_sameButFading.resolution (sameButFade_iff.mp same).1
  selection same := respected_sameButFading.selection (sameButFade_iff.mp same).1
  pixel same := respected_sameButFading.pixel (sameButFade_iff.mp same).1
  toggle {d e} same p x y := by
    rcases sameButFade_iff.mp same with ⟨hsame, hfading⟩
    have hd := congrArg Modes.fading (d.modes_toggle p x y)
    have he := congrArg Modes.fading (e.modes_toggle p x y)
    exact sameButFade_iff.mpr ⟨hsame.toggle p x y, he.trans (hfading.trans hd.symm)⟩
  clear {d e} same := by
    rcases sameButFade_iff.mp same with ⟨hsame, hfading⟩
    have hd := congrArg Modes.fading d.modes_clear
    have he := congrArg Modes.fading e.modes_clear
    exact sameButFade_iff.mpr ⟨hsame.clear, he.trans (hfading.trans hd.symm)⟩
  select := by
    rintro d _ ⟨fade, rfl⟩ s
    exact ⟨fade, rfl⟩
  snapshot := by
    rintro d _ ⟨fade, rfl⟩ s
    exact ⟨fade, rfl⟩

end Display

namespace Console

/-- Two consoles differ at most in the fade grid. -/
def SameButFade (c d : Console) : Prop :=
  ∃ display, c.machine.display.SameButFade display ∧
    d = { c with machine := c.machine.withDisplay display }

variable {c d : Console}

theorem SameButFade.refl (c : Console) : c.SameButFade c :=
  ⟨_, ⟨_, rfl⟩, rfl⟩

theorem SameButFade.symm (same : c.SameButFade d) : d.SameButFade c := by
  rcases same with ⟨_, ⟨_, rfl⟩, rfl⟩
  exact ⟨_, ⟨_, rfl⟩, rfl⟩

theorem SameButFade.trans {e : Console} (first : c.SameButFade d) (second : d.SameButFade e) :
    c.SameButFade e := by
  rcases first with ⟨_, ⟨_, rfl⟩, rfl⟩
  rcases second with ⟨_, ⟨fade, rfl⟩, rfl⟩
  exact ⟨_, ⟨fade, rfl⟩, rfl⟩

/-- Every event keeps consoles equal but for the fade grid, and their steps report
    the same. -/
theorem lockstep_sameButFade : Lockstep SameButFade (fun _ => True) Eq where
  step := by
    rintro c _ ⟨display, same, rfl⟩ -
    have hswitch : ∀ r, c.machine.next.resolution? = some r →
        Display.SameButFade { c.machine.display with resolution := r }
          { display with resolution := r } := by
      intro r _
      rcases same with ⟨fade, rfl⟩
      exact ⟨fade, rfl⟩
    rcases Machine.step_related Display.respected_sameButFade same hswitch with
      ⟨hrecord, display', hsame, hmachine⟩
    exact ⟨hrecord.symm, display', hsame, congrArg (Console.mk c.settings) hmachine⟩
  idle := by
    rintro c _ ⟨display, same, rfl⟩ e running
    cases e with
    | step => exact absurd rfl running
    | tick | setFading =>
        rcases same with ⟨_, rfl⟩
        exact ⟨_, ⟨_, rfl⟩, rfl⟩
    | keys | setDialect => exact ⟨display, same, rfl⟩
    | load bytes =>
        have hbefore : c.SameButFade { c with machine := c.machine.withDisplay display } :=
          ⟨display, same, rfl⟩
        exact related_load hbefore (fun rom => .refl (c.insert rom)) bytes

/-! ### Host events -/

/-- What a tick does to the timers, without the decay. -/
def countDown (c : Console) : Console :=
  { c with machine := { c.machine with memory := c.machine.memory.tickTimers } }

theorem sameButFade_countDown (c : Console) : c.countDown.SameButFade c.tick :=
  ⟨_, ⟨_, rfl⟩, rfl⟩

/-- A step of a console is a step of its machine. -/
theorem step_withMachine {m m' : Machine} {r : Decoded} (hstep : m.step = (r, m')) :
    ({ c with machine := m } : Console).step = (r, { c with machine := m' }) :=
  congrArg (fun r : Decoded × Machine => (r.1, { c with machine := r.2 })) hstep

theorem step_countDown (unused : ¬ c.machine.nextWord.UsesTimers) :
    c.countDown.step = (c.step.1, c.step.2.countDown) := by
  have hstep := Machine.step_withTimers unused (Memory.countDown c.machine.memory.delay)
    (Memory.countDown c.machine.memory.sound)
  -- The timers to be counted down are the same before the step and after it.
  rcases Machine.timers_step unused with ⟨hdelay, hsound⟩
  have hafter : c.step.2.countDown =
      { c with
        machine := c.machine.step.2.withTimers (Memory.countDown c.machine.memory.delay)
          (Memory.countDown c.machine.memory.sound) } := by
    rw [← hdelay, ← hsound]
    rfl
  rw [hafter]
  exact step_withMachine hstep

theorem step_onKeypad (unasked : ¬ c.machine.nextWord.AsksKeys) (change : Keypad → Keypad) :
    (c.onKeypad change).step = (c.step.1, c.step.2.onKeypad change) := by
  have hstep := Machine.step_withKeypad unasked (change c.machine.keypad)
  have hkeypad : c.machine.step.2.keypad = c.machine.keypad :=
    congrArg Surroundings.keypad c.machine.surroundings_step
  -- The step leaves the keypad alone, so the change finds the same one after it.
  have hafter : c.step.2.onKeypad change =
      { c with machine := { c.machine.step.2 with keypad := change c.machine.keypad } } := by
    rw [← hkeypad]
    rfl
  rw [hafter]
  exact step_withMachine hstep

/-- The two orders of a tick and a step differ in when the fade grid decays. The
    timers are counted down apart from it, and this part does commute. -/
theorem step_tick (unused : ¬ c.machine.nextWord.UsesTimers) :
    c.tick.step.1 = c.step.1 ∧ c.step.2.tick.SameButFade c.tick.step.2 := by
  rcases lockstep_sameButFade.step c.sameButFade_countDown trivial with ⟨hrecord, hstep⟩
  rw [step_countDown unused] at hrecord hstep
  exact ⟨hrecord.symm, c.step.2.sameButFade_countDown.symm.trans hstep⟩

theorem tick_onKeypad (c : Console) (change : Keypad → Keypad) :
    (c.onKeypad change).tick = c.tick.onKeypad change :=
  rfl

/-! ### Histories -/

/-- Neither of two events looks at what the other does. -/
def Independent (c : Console) : Event → Event → Prop
  | .step, .tick | .tick, .step => ¬ c.machine.nextWord.UsesTimers
  | .step, .keys _ | .keys _, .step => ¬ c.machine.nextWord.AsksKeys
  | .tick, .keys _ | .keys _, .tick => True
  | _, _ => False

/-- Two events report the same and lead to the same in either order, but for the
    fade grid. -/
structure Commute (c : Console) (e f : Event) : Prop where
  records : c.records [f, e] = c.records [e, f]
  replay : (c.replay [e, f]).SameButFade (c.replay [f, e])

theorem Commute.symm {e f : Event} (commute : c.Commute e f) : c.Commute f e :=
  ⟨commute.records.symm, commute.replay.symm⟩

theorem commute_step_tick (unused : ¬ c.machine.nextWord.UsesTimers) : c.Commute .step .tick := by
  rcases step_tick unused with ⟨hrecord, hsame⟩
  exact ⟨congrArg ([·]) hrecord, hsame⟩

theorem commute_step_keys (unasked : ¬ c.machine.nextWord.AsksKeys)
    (operation : Keypad.Operation) : c.Commute .step (.keys operation) := by
  have hstep := step_onKeypad unasked (·.after operation)
  have hrecord := congrArg Prod.fst hstep
  have hafter : c.replay [.keys operation, .step] = c.replay [.step, .keys operation] :=
    congrArg Prod.snd hstep
  exact ⟨congrArg ([·]) hrecord, hafter ▸ .refl _⟩

theorem Independent.commute {e f : Event} (independent : c.Independent e f) : c.Commute e f := by
  cases e with
  | step =>
      cases f with
      | tick => exact commute_step_tick independent
      | keys operation => exact commute_step_keys independent operation
      | _ => exact independent.elim
  | tick =>
      cases f with
      | step => exact (commute_step_tick independent).symm
      | keys operation => exact ⟨rfl, .refl _⟩
      | _ => exact independent.elim
  | keys operation =>
      cases f with
      | step => exact (commute_step_keys independent operation).symm
      | tick => exact ⟨rfl, .refl _⟩
      | _ => exact independent.elim
  | _ => exact independent.elim

/-- Histories that come of each other by exchanging independent neighbours. -/
inductive Reordered : Console → List Event → List Event → Prop where
  | refl {c : Console} (history : List Event) : Reordered c history history
  | exchange {c : Console} {e f : Event} (independent : c.Independent e f) (rest : List Event) :
      Reordered c (e :: f :: rest) (f :: e :: rest)
  | cons {c : Console} (e : Event) {history history' : List Event}
      (rest : Reordered (c.after e) history history') : Reordered c (e :: history) (e :: history')
  | trans {c : Console} {first second third : List Event} (left : Reordered c first second)
      (right : Reordered c second third) : Reordered c first third

/-- Reordered histories report the same and lead to the same, but for the fade
    grid. After an exchange the rest is run from consoles that differ in it. -/
theorem Reordered.replay {history history' : List Event}
    (reordered : c.Reordered history history') :
    c.records history' = c.records history ∧
      (c.replay history).SameButFade (c.replay history') := by
  induction reordered with
  | refl => exact ⟨rfl, .refl _⟩
  | @exchange c e f independent rest =>
      have hcommute := independent.commute
      -- No step of the rest is exempt: whatever it draws, no record shows the fade.
      have hallowed : ∀ r ∈ (c.replay [e, f]).records rest, True := fun _ _ => trivial
      rcases lockstep_sameButFade.replay hcommute.replay hallowed with ⟨hreplay, hrest⟩
      rw [List.forall₂_eq_eq_eq] at hrest
      refine ⟨?_, hreplay⟩
      change c.records ([f, e] ++ rest) = c.records ([e, f] ++ rest)
      rw [records_append, records_append, hcommute.records, hrest]
  | cons e _ ih =>
      refine ⟨?_, ih.2⟩
      rw [Console.records, Console.records, ih.1]
  | trans _ _ ih ih' => exact ⟨ih'.1.trans ih.1, ih.2.trans ih'.2⟩

end Console

/-- A tick and a step may change places, but for the fade grid, unless the word at
    the program counter is `FX07`, `FX15` or `FX18`. Whatever happens to the
    keypad, such as that a key is pressed or released, may change places with a
    step unless that word is `EX9E`, `EXA1` or `FX0A`, and always with a tick. By
    such exchanges a history becomes another in which the steps report the same,
    and which leads to the same console but for the fade grid. -/
theorem host_events_commute (c : Console) :
    (¬ c.machine.nextWord.UsesTimers →
      c.tick.step.1 = c.step.1 ∧ c.step.2.tick.SameButFade c.tick.step.2) ∧
    (∀ change : Keypad → Keypad, ¬ c.machine.nextWord.AsksKeys →
      (c.onKeypad change).step.1 = c.step.1 ∧
        (c.onKeypad change).step.2 = c.step.2.onKeypad change) ∧
    (∀ change : Keypad → Keypad, (c.onKeypad change).tick = c.tick.onKeypad change) ∧
    ∀ history history', c.Reordered history history' →
      c.records history' = c.records history ∧
        (c.replay history).SameButFade (c.replay history') := by
  refine ⟨Console.step_tick, ?_, c.tick_onKeypad, fun _ _ => Console.Reordered.replay⟩
  intro change unasked
  rw [Console.step_onKeypad unasked]
  exact ⟨rfl, rfl⟩

namespace Console

/-- A console with its delay timer running, about to draw a row a second time and
    erase it by that. -/
def erasing : Console :=
  (Console.new {} 0).replay
    (.load [0x60, 0x05, 0xF0, 0x15, 0xA0, 0x50, 0xD1, 0x21, 0xD1, 0x21] :: .replicate 4 .step)

/-- A key is pressed before the next instruction and time passes after it. -/
def pressedFirst : List Event :=
  [.keys (.set 3 true), .step, .tick]

/-- The other way round. -/
def pressedLast : List Event :=
  [.tick, .step, .keys (.set 3 true)]

end Console

open Console in
/-- The row is erased alike between the press and the tick and between the tick and
    the press. -/
theorem host_events_commute_when_erasing :
    ¬ erasing.machine.nextWord.UsesTimers ∧ ¬ erasing.machine.nextWord.AsksKeys ∧
      erasing.machine.memory.delay = 5 ∧
      (erasing.tick.step.1 = erasing.step.1 ∧
        erasing.step.2.tick.SameButFade erasing.tick.step.2) ∧
      ((erasing.press 3).step.1 = erasing.step.1 ∧
        (erasing.press 3).step.2 = erasing.step.2.press 3) ∧
      erasing.records pressedLast = erasing.records pressedFirst ∧
      (erasing.replay pressedFirst).SameButFade (erasing.replay pressedLast) := by
  have unused : ¬ erasing.machine.nextWord.UsesTimers := by decide +kernel
  have unasked : ¬ erasing.machine.nextWord.AsksKeys := by decide +kernel
  have reordered : erasing.Reordered pressedFirst pressedLast :=
    .trans (.exchange (e := .keys (.set 3 true)) (f := .step) unasked [.tick]) <|
    .trans (.cons .step (.exchange (e := .keys (.set 3 true)) (f := .tick) trivial [])) <|
    .exchange (e := .step) (f := .tick) unused [.keys (.set 3 true)]
  rcases host_events_commute erasing with ⟨htick, hkeys, -, hreordered⟩
  refine ⟨unused, unasked, ?_, htick unused, hkeys (·.press 3) unasked, hreordered _ _ reordered⟩
  decide +kernel

end ChipEight
