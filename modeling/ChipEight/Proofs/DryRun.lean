import ChipEight.Proofs.ControlFlow

/-!
# Dry Runs

What a console says about an instruction before it runs it, and what it reports
when it does.

A description is asked for by address, and a step finds its word through the
program counter. The two meet in the word: addresses that wrap alike lead to
the same bytes, and of a machine nothing else but the dialect enters a
description. So the text that a step begins its trace with is fixed by the
fetch, before the instruction has a chance to overwrite its own bytes, to move
the counter or to fail; `Machine.step_eq_perform` is what says that the text is
not made afterwards from what the instruction left behind.

## Main definitions

* `Decoded.Foretells`: A description and the record of the step it describes.
* `Memory.AgreeAt`: Two memories hold the same word at an address.

## Theorems

* `Decoded.foretells_withOutcome`: An outcome adds to a description.
* `Memory.AgreeAt.wordAt`: The bytes that a word consists of.
* `dry_run_foretells_step`: A step reports what was said of it, and a description
  depends on the dialect and on two bytes of memory.
-/

namespace ChipEight

namespace Decoded

/-- A description and the record of the step it describes: the same word, the
    same instruction, and a trace that goes on from the text of the description
    if it does not end there. -/
structure Foretells (dry wet : Decoded) : Prop where
  word : wet.word = dry.word
  instruction : wet.instruction = dry.instruction
  trace : wet.trace = dry.trace ∨ ∃ values, values ≠ "" ∧ wet.trace = dry.trace ++ " ; " ++ values

theorem foretells_withOutcome (d : Decoded) (o : Outcome) : d.Foretells (d.withOutcome o) := by
  refine ⟨rfl, rfl, ?_⟩
  by_cases silent : o.detail.text = ""
  · left
    rw [withOutcome, suffix, if_pos silent, String.append_empty]
  · right
    refine ⟨o.detail.text, silent, ?_⟩
    rw [withOutcome, suffix, if_neg silent, String.append_assoc]

end Decoded

/-- Two memories hold the same word at an address: the byte at its place and the
    next one, which may lie on the other side of the end of memory. -/
structure Memory.AgreeAt (m m' : Memory) (a : Address) : Prop where
  high : m.ram.get (.ofNat 4096 a.toNat) = m'.ram.get (.ofNat 4096 a.toNat)
  low : m.ram.get (.ofNat 4096 (a.toNat + 1)) = m'.ram.get (.ofNat 4096 (a.toNat + 1))

theorem Memory.AgreeAt.wordAt {m m' : Memory} {a : Address} (agree : m.AgreeAt m' a) :
    m.wordAt a = m'.wordAt a := by
  have hhigh : m.ram[Fin.ofNat 4096 a.toNat] = m'.ram[Fin.ofNat 4096 a.toNat] := agree.high
  have hlow : m.ram[Fin.ofNat 4096 (a.toNat + 1)] = m'.ram[Fin.ofNat 4096 (a.toNat + 1)] :=
    agree.low
  rw [← UInt16.toNat_inj, toNat_wordAt, toNat_wordAt, hhigh, hlow]

namespace Console

/-- An address that leads where the counter stands leads to the word that the
    next step executes. -/
theorem explainAt_of_here {c : Console} {a : Address}
    (here : a.toNat % 4096 = c.machine.memory.counter.toNat % 4096) :
    c.explainAt a = .ofWord c.machine.dialect c.machine.nextWord :=
  congrArg (Decoded.ofWord c.machine.dialect)
    (c.machine.memory.wordAt_congr (wrapAddress_eq_iff.mpr here))

theorem explainAt_of_agree {c c' : Console} {a : Address}
    (dialect : c.machine.dialect = c'.machine.dialect)
    (agree : c.machine.memory.AgreeAt c'.machine.memory a) : c.explainAt a = c'.explainAt a := by
  simp only [explainAt, Machine.explain, dialect, agree.wordAt]

end Console

/-- At every address that leads where the counter stands, a console says beforehand
    what its next step reports: the word, the instruction, and the text that the
    trace of the step begins with. It says the same as any other console of the
    same dialect with the same two bytes at an address, and it reports no effect. -/
theorem dry_run_foretells_step {c : Console} {a : Address}
    (here : a.toNat % 4096 = c.machine.memory.counter.toNat % 4096) :
    (c.explainAt a).Foretells c.step.1 ∧
      ∀ (first second : Console) (b : Address),
        first.machine.dialect = second.machine.dialect →
        first.machine.memory.AgreeAt second.machine.memory b →
        first.explainAt b = second.explainAt b ∧ (first.explainAt b).effect = {} := by
  constructor
  · rw [Console.explainAt_of_here here]
    exact Decoded.foretells_withOutcome _ _
  · intro first second b dialect agree
    exact ⟨Console.explainAt_of_agree dialect agree, rfl⟩

/-- A console whose next instruction stores `00` in place of its own first byte. -/
def Console.overwriting : Console :=
  (Console.new {} 0).replay [.load [0xA2, 0x02, 0xF0, 0x55], .step]

open Console in
/-- The step reports the instruction that was there, and afterwards the same
    address leads to another one. Until then a host may do what it likes. -/
theorem dry_run_foretells_step_when_overwriting :
    (overwriting.explainAt 0xF202).Foretells overwriting.step.1 ∧
      overwriting.step.1.instruction = .save 0x0 ∧
      overwriting.step.2.machine.memory.wordAt 0xF202 = 0x0055 ∧
      overwriting.explainAt 0x202 = overwriting.tick.explainAt 0x202 := by
  have here : (0xF202 : Address).toNat % 4096 =
      overwriting.machine.memory.counter.toNat % 4096 := by
    decide +kernel
  -- A tick changes neither; said of every console, it need not be computed for this one.
  have same : ∀ c : Console, c.machine.dialect = c.tick.machine.dialect ∧
      c.machine.memory.AgreeAt c.tick.machine.memory 0x202 :=
    fun _ => ⟨rfl, rfl, rfl⟩
  rcases same overwriting with ⟨dialect, agree⟩
  rcases dry_run_foretells_step here with ⟨foretells, depends⟩
  refine ⟨foretells, by decide +kernel, by decide +kernel, ?_⟩
  exact (depends overwriting overwriting.tick 0x202 dialect agree).1

end ChipEight
