import ChipEight.Proofs.Console.Lockstep
import ChipEight.Proofs.Encoding
import ChipEight.Proofs.Machine.Surroundings

/-!
# What Dialects Disagree About

A dialect has four switches, and each changes the reading of two words at most:
the shifts, the jump with an offset, the two block transfers and the two
subtractions. Every other word means the same in all dialects, and says the
same in traces.

Of these words, too, some mean the same. A shift of a register into itself has
but one register to read, a jump with an offset that begins with the digit 0
adds V0 in either reading, and the order of the two writes of a subtraction is
lost unless both go into VF. `Word.Disputed` lists what is left, and two
consoles that differ in their dialects alone run any program in the same way
until they meet such a word.

The list is one of words, while instructions are performed after decoding.
`Word.disputed_iff` goes from one to the other, so that no word is overlooked
which decodes to a disputed instruction in a roundabout way.

## Main definitions

* `Word.Disputed`: The words that two dialects disagree about.
* `Console.SameButDialect`: Equal but for the dialects.
* `Console.DifferWithin`: The same, with no more disputes than two given dialects
  have.

## Theorems

* `Word.disputed_iff`: A word is disputed if what it decodes to is.
* `Console.SameButDialect.step`: A step on an undisputed word.
* `Console.lockstep_differWithin`: Events add no disputes.
* `undisputed_words_agree`: Dialects influence nothing but disputed words.
-/

namespace ChipEight

namespace Word

open Instruction (decode decode_word word_decode valid_decode)

/-! ### Words -/

/-- The words that two dialects disagree about. -/
inductive Disputed (d e : Dialect) : Word → Prop where
  /-- `8XY6`, unless X is Y. -/
  | shiftRight {x y : Register} (apart : x ≠ y) (differ : d.shiftUsesY ≠ e.shiftUsesY) :
      Disputed d e (ofDigits 0x8 x y 0x6)
  /-- `8XYE`, unless X is Y. -/
  | shiftLeft {x y : Register} (apart : x ≠ y) (differ : d.shiftUsesY ≠ e.shiftUsesY) :
      Disputed d e (ofDigits 0x8 x y 0xE)
  /-- `BNNN`, unless the first digit of NNN is 0. -/
  | jumpOffset {x b c : Nibble} (nonzero : x ≠ 0) (differ : d.jumpUsesX ≠ e.jumpUsesX) :
      Disputed d e (ofDigits 0xB x b c)
  /-- `FX55`. -/
  | save {x : Register} (differ : d.indexAdvances ≠ e.indexAdvances) :
      Disputed d e (ofDigits 0xF x 0x5 0x5)
  /-- `FX65`. -/
  | restore {x : Register} (differ : d.indexAdvances ≠ e.indexAdvances) :
      Disputed d e (ofDigits 0xF x 0x6 0x5)
  /-- `8FY5`. -/
  | subtract {y : Register} (differ : d.flagFirst ≠ e.flagFirst) :
      Disputed d e (ofDigits 0x8 0xF y 0x5)
  /-- `8FY7`. -/
  | subtractFrom {y : Register} (differ : d.flagFirst ≠ e.flagFirst) :
      Disputed d e (ofDigits 0x8 0xF y 0x7)

/-- A jump with an offset is encoded by the digits of its target. -/
theorem decode_jumpOffset (x b c : Nibble) :
    decode (ofDigits 0xB x b c) = .jumpOffset x (ofDigits 0x0 x b c) := by
  have hword : (Instruction.jumpOffset x (ofDigits 0x0 x b c)).word = ofDigits 0xB x b c := by
    simp only [Instruction.word, withAddress, x_ofDigits, y_ofDigits, n_ofDigits]
  have hfits : (ofDigits 0x0 x b c).toNat < 4096 := by
    have hx := x.isLt
    have hb := b.isLt
    have hc := c.isLt
    simp only [toNat_ofDigits]
    omega
  rw [← hword]
  exact decode_word (.jumpOffset x _) ⟨hfits, (x_ofDigits ..).symm⟩

theorem disputed_word {d e : Dialect} (i : Instruction) (valid : i.Valid)
    (disputed : i.disputed d e = true) : (decode i.word).disputed d e = true := by
  rwa [decode_word i valid]

theorem disputed_iff {d e : Dialect} {w : Word} :
    w.Disputed d e ↔ (decode w).disputed d e = true := by
  constructor
  · intro disputed
    cases disputed with
    | @shiftRight x y apart differ =>
        exact disputed_word (.shiftRight x y) trivial (decide_eq_true ⟨apart, differ⟩)
    | @shiftLeft x y apart differ =>
        exact disputed_word (.shiftLeft x y) trivial (decide_eq_true ⟨apart, differ⟩)
    | jumpOffset nonzero differ =>
        rw [decode_jumpOffset]
        exact decide_eq_true ⟨nonzero, differ⟩
    | @save x differ =>
        exact disputed_word (.save x) trivial (decide_eq_true differ)
    | @restore x differ =>
        exact disputed_word (.restore x) trivial (decide_eq_true differ)
    | @subtract y differ =>
        exact disputed_word (.subtract 0xF y) trivial (decide_eq_true ⟨rfl, differ⟩)
    | @subtractFrom y differ =>
        exact disputed_word (.subtractFrom 0xF y) trivial (decide_eq_true ⟨rfl, differ⟩)
  · intro disputed
    -- The word is put together again from the operands of the instruction.
    have hword := word_decode w
    have hvalid := valid_decode w
    generalize decode w = i at disputed hword hvalid
    cases i with
    | shiftRight x y =>
        have h := of_decide_eq_true disputed
        exact hword ▸ .shiftRight h.1 h.2
    | shiftLeft x y =>
        have h := of_decide_eq_true disputed
        exact hword ▸ .shiftLeft h.1 h.2
    | jumpOffset x a =>
        have h := of_decide_eq_true disputed
        rcases hvalid with ⟨-, rfl⟩ | other
        · exact hword ▸ .jumpOffset h.1 h.2
        · cases other
    | save x => exact hword ▸ .save (of_decide_eq_true disputed)
    | restore x => exact hword ▸ .restore (of_decide_eq_true disputed)
    | subtract x y =>
        rcases of_decide_eq_true disputed with ⟨rfl, differ⟩
        exact hword ▸ .subtract differ
    | subtractFrom x y =>
        rcases of_decide_eq_true disputed with ⟨rfl, differ⟩
        exact hword ▸ .subtractFrom differ
    | _ => exact absurd disputed Bool.false_ne_true

instance (d e : Dialect) (w : Word) : Decidable (w.Disputed d e) :=
  decidable_of_iff ((decode w).disputed d e = true) disputed_iff.symm

end Word

/-! ### Consoles -/

namespace Machine

/-- A step in another dialect, on a word that the two dialects agree on. -/
theorem step_withDialect {m : Machine} {dialect : Dialect}
    (undisputed : ¬ m.nextWord.Disputed m.dialect dialect) :
    ({ m with dialect := dialect } : Machine).step =
      (m.step.1, { m.step.2 with dialect := dialect }) := by
  have hundisputed : m.next.disputed m.dialect dialect = false :=
    Bool.eq_false_iff.mpr (mt Word.disputed_iff.mpr undisputed)
  have hstep := step_withSurroundings (m := m) (s := { m.surroundings with dialect := dialect })
    (fun _ _ => rfl) (fun _ => rfl) hundisputed
  have hafter : m.next.surroundingsAfter (m.fetched.withSurroundings
      { m.surroundings with dialect := dialect }) =
        { m.step.2.surroundings with dialect := dialect } := by
    rw [surroundings_step]
    rfl
  rw [hafter] at hstep
  exact hstep

end Machine

namespace Console

/-- Two consoles differ at most in their dialects, the ones in force and the ones
    in the settings. -/
def SameButDialect (c d : Console) : Prop :=
  ∃ chosen dialect, d = { settings := { c.settings with dialect := chosen }
                          machine := { c.machine with dialect := dialect } }

/-- Two consoles differ at most in their dialects, and agree on every word that
    two given dialects agree on. -/
structure DifferWithin (e f : Dialect) (c d : Console) : Prop where
  same : c.SameButDialect d
  within : ∀ w : Word, w.Disputed c.machine.dialect d.machine.dialect → w.Disputed e f

variable {c d : Console}

theorem SameButDialect.insert (same : c.SameButDialect d) (rom : Rom) :
    (c.insert rom).SameButDialect (d.insert rom) := by
  rcases same with ⟨chosen, dialect, rfl⟩
  exact ⟨chosen, dialect, rfl⟩

theorem SameButDialect.step (same : c.SameButDialect d)
    (undisputed : ¬ c.step.1.word.Disputed c.machine.dialect d.machine.dialect) :
    d.step.1 = c.step.1 ∧ c.step.2.SameButDialect d.step.2 := by
  rcases same with ⟨chosen, dialect, rfl⟩
  have hstep := Machine.step_withDialect (m := c.machine) undisputed
  have hrecord := congrArg Prod.fst hstep
  have hmachine := congrArg Prod.snd hstep
  refine ⟨hrecord, chosen, dialect, ?_⟩
  exact congrArg (Console.mk { c.settings with dialect := chosen }) hmachine

theorem DifferWithin.start (same : c.SameButDialect d) :
    DifferWithin c.machine.dialect d.machine.dialect c d :=
  ⟨same, fun _ disputed => disputed⟩

/-- Events add no disputes: the dialects stay what they are, or both become the
    same. -/
theorem lockstep_differWithin (e f : Dialect) :
    Lockstep (DifferWithin e f) (fun r => ¬ r.word.Disputed e f) Eq where
  step := by
    intro c d related undisputed
    have hundisputed := mt (related.within c.step.1.word) undisputed
    rcases related.same.step hundisputed with ⟨hrecord, hstep⟩
    have hdialect : ∀ c : Console, c.step.2.machine.dialect = c.machine.dialect := by
      intro c
      exact congrArg Surroundings.dialect c.machine.surroundings_step
    refine ⟨hrecord.symm, hstep, ?_⟩
    rw [hdialect c, hdialect d]
    exact related.within
  idle := by
    intro c d related event running
    rcases related with ⟨same, within⟩
    cases event with
    | step => exact absurd rfl running
    | tick | keys | setFading =>
        rcases same with ⟨chosen, dialect, rfl⟩
        exact ⟨⟨chosen, dialect, rfl⟩, within⟩
    | setDialect dialect =>
        -- One dialect for both leaves nothing to disagree about.
        rcases same with ⟨_, _, rfl⟩
        refine ⟨⟨dialect, dialect, rfl⟩, ?_⟩
        intro w disputed
        exact absurd (Word.disputed_iff.mp disputed) (Bool.eq_false_iff.mp
          (Instruction.disputed_self dialect (.decode w)))
    | load bytes =>
        have hinserted : ∀ rom, DifferWithin e f (c.insert rom) (d.insert rom) :=
          fun rom => ⟨same.insert rom, within⟩
        exact related_load ⟨same, within⟩ hinserted bytes

end Console

/-- Two consoles differ at most in their dialects. A step reports the same on both
    and leaves them differing at most in their dialects, unless the word at the
    program counter is one that the dialects disagree about. So do histories and
    sessions that meet no such word. -/
theorem undisputed_words_agree {c d : Console} (same : c.SameButDialect d) :
    (¬ c.step.1.word.Disputed c.machine.dialect d.machine.dialect →
      d.step.1 = c.step.1 ∧ c.step.2.SameButDialect d.step.2) ∧
    (∀ history : List Console.Event,
      (∀ r ∈ c.records history, ¬ r.word.Disputed c.machine.dialect d.machine.dialect) →
        d.records history = c.records history ∧
          (c.replay history).SameButDialect (d.replay history)) ∧
    ∀ cycles perTick,
      (∀ r ∈ (c.run cycles perTick).trail,
        ¬ r.word.Disputed c.machine.dialect d.machine.dialect) →
        (d.run cycles perTick).summary = (c.run cycles perTick).summary ∧
          (d.run cycles perTick).trail = (c.run cycles perTick).trail ∧
          (c.run cycles perTick).console.SameButDialect (d.run cycles perTick).console := by
  have lockstep := Console.lockstep_differWithin c.machine.dialect d.machine.dialect
  have start := Console.DifferWithin.start same
  refine ⟨same.step, ?_, ?_⟩
  · intro history undisputed
    rcases lockstep.replay start undisputed with ⟨hreplay, hrecords⟩
    rw [List.forall₂_eq_eq_eq] at hrecords
    exact ⟨hrecords.symm, hreplay.same⟩
  · intro cycles perTick undisputed
    have hrun := lockstep.run_of_allowed start cycles perTick undisputed
    exact ⟨hrun.summary, hrun.trail, hrun.console.same⟩

namespace Console

/-- A console as it comes, and one with every switch of its dialect on. -/
def modern : Console := .new {} 0

def historic : Console := .new { dialect := ⟨true, true, true, true⟩ } 0

/-- A program that shifts a register into itself, subtracts from another register
    than VF, and jumps with an offset that begins with the digit 0. -/
def uncontroversial : List Event :=
  .load [0x61, 0x81, 0x81, 0x16, 0x82, 0x15, 0x60, 0xF0, 0xB0, 0xFF] :: .replicate 6 .step

end Console

open Console in
/-- Every switch is asked for on the way, and no answer matters. -/
theorem undisputed_words_agree_when_uncontroversial :
    modern.SameButDialect historic ∧
      (modern.records uncontroversial).map (·.word) =
        [0x6181, 0x8116, 0x8215, 0x60F0, 0xB0FF, 0x0000] ∧
      (∀ r ∈ modern.records uncontroversial,
        ¬ r.word.Disputed modern.machine.dialect historic.machine.dialect) ∧
      historic.records uncontroversial = modern.records uncontroversial ∧
      (modern.replay uncontroversial).SameButDialect (historic.replay uncontroversial) := by
  have same : modern.SameButDialect historic := ⟨_, _, rfl⟩
  have undisputed : ∀ r ∈ modern.records uncontroversial,
      ¬ r.word.Disputed modern.machine.dialect historic.machine.dialect := by
    decide +kernel
  refine ⟨same, ?_, undisputed, ?_⟩
  · decide +kernel
  · exact (undisputed_words_agree same).2.1 uncontroversial undisputed

end ChipEight
