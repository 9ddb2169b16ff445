import ChipEight.Proofs.Console.Events
import ChipEight.Proofs.Encoding

/-!
# Calls and Returns

A subroutine that comes back to its caller finds the stack as the caller left
it, whatever happened in between.

Nothing but `2NNN` and `00EE` moves the stack, each by one address at its top.
`Console.stack_step` says so once for every word, and everything here follows
from it. The argument about a call is an invariant of the history after it:
the return address and the stack below it are the bottom part of every later
stack (`Console.suffix_replay`). Popping is the only danger to it, and the pop
that would take the return address is the one that reaches the depth of the
caller. Nested calls, jumps out of a subroutine, words the program has changed,
returns that find nothing and waits for a key need no cases of their own.

Most recent addresses come first in a stack, so its bottom part is a suffix.

## Main definitions

* `Console.stack`, `Console.depth`: The return addresses, and how many.
* `Decoded.isCall`, `Decoded.isReturn`: Records of calls, and of returns that
  found an address.

## Theorems

* `Console.stack_step`: What one step does to the stack.
* `Console.depth_replay`: Over a history the depth grows by one with each call
  and shrinks by one with each return.
* `Console.underflow_iff`: A step underflows exactly when it returns from
  depth zero.
* `Console.suffix_replay`: What a call pushed stays at the bottom until the
  depth of the caller is reached.
* `call_return_discipline`: A matched return goes on behind its call, with the
  stack from before it.
-/

namespace ChipEight

namespace Instruction

theorem decode_of_family_two {w : Word} (first : w.family = 0x2) :
    decode w = .call w.address := by
  simp only [decode, first]
  rfl

theorem family_of_decode_call {w : Word} {a : Address} (call : decode w = .call a) :
    w.family = 0x2 := by
  rw [← word_decode w, call, word, Word.family_withAddress]

theorem decode_eq_ret_iff {w : Word} : decode w = .ret ↔ w = 0x00EE := by
  rw [decode_eq_iff w .ret trivial, eq_comm]
  rfl

end Instruction

/-! ### Records -/

/-- Whether the record is of a call. -/
def Decoded.isCall (d : Decoded) : Bool :=
  d.word.family == 0x2

/-- Whether the record is of a return that found an address. -/
def Decoded.isReturn (d : Decoded) : Bool :=
  d.word == 0x00EE && d.effect.fault == none

namespace Console

/-- The return addresses, most recent first. -/
def stack (c : Console) : List Address :=
  c.machine.memory.stack

/-- How many subroutines have not returned. -/
def depth (c : Console) : Nat :=
  c.stack.length

/-! ### One step -/

/-- What one step does to the stack: a call pushes the address behind it, a
    return pops, and no other word touches it. -/
theorem stack_step (c : Console) :
    (c.machine.nextWord.family = 0x2 ∧ c.machine.nextWord ≠ 0x00EE ∧
      c.step.2.stack = c.machine.memory.advance.counter :: c.stack) ∨
    (c.machine.nextWord.family ≠ 0x2 ∧ c.machine.nextWord = 0x00EE ∧
      c.step.2.stack = c.stack.tail) ∨
    (c.machine.nextWord.family ≠ 0x2 ∧ c.machine.nextWord ≠ 0x00EE ∧
      c.step.2.stack = c.stack) := by
  have hstack : c.step.2.stack = c.machine.next.stackAfter c.machine.fetched :=
    c.machine.step_stack
  rw [hstack, Machine.next]
  by_cases call : c.machine.nextWord.family = 0x2
  · refine .inl ⟨call, ?_, ?_⟩
    · -- A return begins with the digit zero.
      intro ret
      rw [ret] at call
      exact absurd call (by decide)
    · rw [Instruction.decode_of_family_two call]
      rfl
  · by_cases ret : c.machine.nextWord = 0x00EE
    · refine .inr (.inl ⟨call, ret, ?_⟩)
      rw [Instruction.decode_eq_ret_iff.mpr ret]
      rfl
    · refine .inr (.inr ⟨call, ret, ?_⟩)
      cases hdecode : Instruction.decode c.machine.nextWord with
      | call => exact absurd (Instruction.family_of_decode_call hdecode) call
      | ret => exact absurd (Instruction.decode_eq_ret_iff.mp hdecode) ret
      | _ => rfl

theorem fault_step (c : Console) : c.step.1.effect.fault = c.machine.next.fault? c.machine :=
  congrArg Effect.fault c.machine.step_effect

theorem underflow_iff (c : Console) :
    c.step.1.effect.fault = some .stackUnderflow ↔
      c.machine.nextWord = 0x00EE ∧ c.depth = 0 := by
  rw [fault_step, Instruction.fault?_eq_stackUnderflow_iff, Machine.next,
    Instruction.decode_eq_ret_iff, depth, List.length_eq_zero_iff]
  rfl

/-- A return goes on at the address on top of the stack. -/
theorem counter_step_of_ret {c : Console} {a : Address} {rest : List Address}
    (ret : c.machine.nextWord = 0x00EE) (top : c.stack = a :: rest) :
    c.step.2.machine.memory.counter = wrapAddress a := by
  have hcounter : c.step.2.machine.memory.counter = c.machine.next.successor c.machine.fetched :=
    c.machine.step_counter
  have htop : c.machine.memory.stack = a :: rest := top
  rw [hcounter, Machine.next, Instruction.decode_eq_ret_iff.mpr ret, Instruction.successor_ret,
    Machine.stack_fetched, htop]

/-! ### Depth -/

theorem isCall_iff (c : Console) : c.step.1.isCall = true ↔ c.machine.nextWord.family = 0x2 :=
  beq_iff_eq

theorem isReturn_iff (c : Console) :
    c.step.1.isReturn = true ↔ c.machine.nextWord = 0x00EE ∧ c.depth ≠ 0 := by
  have hword : c.step.1.word = c.machine.nextWord := rfl
  rw [Decoded.isReturn, Bool.and_eq_true, beq_iff_eq, beq_iff_eq, hword]
  constructor
  · rintro ⟨ret, quiet⟩
    refine ⟨ret, fun empty => ?_⟩
    rw [c.underflow_iff.mpr ⟨ret, empty⟩] at quiet
    cases quiet
  · rintro ⟨ret, deep⟩
    refine ⟨ret, ?_⟩
    -- A return faults by underflow or not at all.
    rw [fault_step, Machine.next, Instruction.decode_eq_ret_iff.mpr ret]
    exact if_neg (fun empty => deep (List.length_eq_zero_iff.mpr empty))

/-- A return that finds nothing leaves the stack as empty as it was, so that it
    counts for none. -/
theorem depth_step (c : Console) :
    c.step.2.depth + (if c.step.1.isReturn then 1 else 0) =
      c.depth + (if c.step.1.isCall then 1 else 0) := by
  simp only [isCall_iff, isReturn_iff]
  rcases c.stack_step with ⟨call, ret, pushed⟩ | ⟨call, ret, popped⟩ | ⟨call, ret, kept⟩
  · rw [if_pos call, if_neg (fun h => ret h.1), depth, pushed, List.length_cons]
    rfl
  · rw [if_neg call, depth, popped, List.length_tail]
    -- Only a pop that found an address is counted.
    by_cases empty : c.depth = 0
    · rw [if_neg (fun h => h.2 empty)]
      simp only [depth] at empty ⊢
      omega
    · rw [if_pos ⟨ret, empty⟩]
      simp only [depth] at empty ⊢
      omega
  · rw [if_neg call, if_neg (fun h => ret h.1), depth, kept]
    rfl

/-! ### Histories -/

/-- Between steps nothing but loading a program touches the stack. -/
theorem stack_after {c : Console} {e : Event} (running : e.isLoad = false)
    (idle : c.record? e = none) : (c.after e).stack = c.stack := by
  cases e with
  | step => cases idle
  | load => cases running
  | _ => rfl

theorem depth_after {c : Console} {e : Event} (running : e.isLoad = false) :
    (c.after e).depth + (c.record? e).toList.countP Decoded.isReturn =
      c.depth + (c.record? e).toList.countP Decoded.isCall := by
  cases hrecord : c.record? e with
  | none => rw [depth, stack_after running hrecord]; rfl
  | some d =>
      cases e with
      | step =>
          cases hrecord
          simp only [Option.toList_some, List.countP_singleton]
          exact c.depth_step
      | _ => cases hrecord

/-- Over a history the depth grows by one with each call and shrinks by one
    with each return. -/
theorem depth_replay {c : Console} {history : List Event}
    (running : ∀ e ∈ history, e.isLoad = false) :
    (c.replay history).depth + (c.records history).countP Decoded.isReturn =
      c.depth + (c.records history).countP Decoded.isCall := by
  induction history generalizing c with
  | nil => rfl
  | cons e rest ih =>
      rcases List.forall_mem_cons.mp running with ⟨hevent, hlater⟩
      have hfirst := depth_after (c := c) hevent
      have hrest := ih (c := c.after e) hlater
      rw [replay_cons, records, List.countP_append, List.countP_append]
      omega

/-- What a call pushed stays at the bottom, unless one event reaches the depth
    of the caller: popping anything above it leaves it, and popping the return
    address itself is to reach that depth. -/
theorem suffix_after {c : Console} {e : Event} {a : Address} {rest : List Address}
    (running : e.isLoad = false) (below : a :: rest <:+ c.stack)
    (deep : (c.after e).depth ≠ rest.length) : a :: rest <:+ (c.after e).stack := by
  cases hrecord : c.record? e with
  | none => rwa [stack_after running hrecord]
  | some d =>
      cases e with
      | step =>
          rcases c.stack_step with ⟨-, -, pushed⟩ | ⟨-, -, popped⟩ | ⟨-, -, kept⟩
          · rw [after, pushed]
            exact below.trans (List.suffix_cons _ _)
          · rw [depth, after, popped] at deep
            rw [after, popped]
            -- Either the return address is on top, or it lies below what is popped.
            cases hstack : c.stack with
            | nil => rwa [hstack] at below
            | cons b others =>
                rw [hstack] at below deep
                rcases List.suffix_cons_iff.mp below with top | inside
                · cases top
                  exact absurd rfl deep
                · exact inside
          · rwa [after, kept]
      | _ => cases hrecord

theorem suffix_replay {c : Console} {history : List Event} {a : Address} {rest : List Address}
    (running : ∀ e ∈ history, e.isLoad = false) (below : a :: rest <:+ c.stack)
    (deep : ∀ n ≤ history.length, (c.replay (history.take n)).depth ≠ rest.length) :
    a :: rest <:+ (c.replay history).stack := by
  induction history generalizing c with
  | nil => exact below
  | cons e tail ih =>
      rcases List.forall_mem_cons.mp running with ⟨hevent, hlater⟩
      have hdeep : (c.after e).depth ≠ rest.length :=
        deep 1 (Nat.succ_le_succ (Nat.zero_le tail.length))
      have hfirst : a :: rest <:+ (c.after e).stack := suffix_after hevent below hdeep
      refine ih hlater hfirst ?_
      intro n hn
      exact deep (n + 1) (Nat.succ_le_succ hn)

/-- From a call to the return that reaches its depth again, the bottom of the
    stack is the return address of the call and the stack below it. -/
theorem step_of_matched {c : Console} {history : List Event}
    (running : ∀ e ∈ history, e.isLoad = false) (call : c.machine.nextWord.family = 0x2)
    (deep : ∀ n ≤ history.length, (c.step.2.replay (history.take n)).depth ≠ c.depth)
    (ret : (c.step.2.replay history).machine.nextWord = 0x00EE)
    (matched : (c.step.2.replay history).depth = c.depth + 1) :
    (c.step.2.replay history).step.2.machine.memory.counter.toNat =
        (c.machine.memory.counter.toNat + 2) % 4096 ∧
      (c.step.2.replay history).step.2.stack = c.stack := by
  have hpushed : c.step.2.stack = c.machine.memory.advance.counter :: c.stack := by
    rcases c.stack_step with ⟨-, -, pushed⟩ | ⟨other, -⟩ | ⟨other, -⟩
    · exact pushed
    · exact absurd call other
    · exact absurd call other
  have hbelow : c.machine.memory.advance.counter :: c.stack <:+ (c.step.2.replay history).stack :=
    suffix_replay running (hpushed ▸ List.suffix_rfl) deep
  -- At this depth the bottom part is all there is.
  have hstack : (c.step.2.replay history).stack = c.machine.memory.advance.counter :: c.stack :=
    (hbelow.eq_of_length matched.symm).symm
  constructor
  · rw [counter_step_of_ret ret hstack, toNat_wrapAddress, Memory.toNat_advance, Nat.mod_mod]
  · rcases (c.step.2.replay history).stack_step with ⟨-, other, -⟩ | ⟨-, -, popped⟩ | ⟨-, other, -⟩
    · exact absurd ret other
    · rw [popped, hstack, List.tail_cons]
    · exact absurd ret other

end Console

open Console in
/-- Whatever a console goes through, short of another program being put in: the
    depth of its stack grows with the calls and shrinks with the returns that
    its steps report, and its next step underflows exactly if it returns from
    depth zero. If what it went through began with a call and never came back
    to the depth of that call, then a return from just above that depth goes on
    behind the call, with the stack from before it. -/
theorem call_return_discipline {c : Console} {history : List Event}
    (running : ∀ e ∈ history, e.isLoad = false) :
    (c.replay history).depth + (c.records history).countP Decoded.isReturn =
        c.depth + (c.records history).countP Decoded.isCall ∧
      ((c.replay history).step.1.effect.fault = some .stackUnderflow ↔
        (c.replay history).machine.nextWord = 0x00EE ∧ (c.replay history).depth = 0) ∧
      (c.machine.nextWord.family = 0x2 →
        (∀ n ≤ history.length, (c.step.2.replay (history.take n)).depth ≠ c.depth) →
        (c.step.2.replay history).machine.nextWord = 0x00EE →
        (c.step.2.replay history).depth = c.depth + 1 →
        (c.step.2.replay history).step.2.machine.memory.counter.toNat =
            (c.machine.memory.counter.toNat + 2) % 4096 ∧
          (c.step.2.replay history).step.2.stack = c.stack) :=
  ⟨depth_replay running, underflow_iff _, step_of_matched running⟩

/-- A console about to call a subroutine at `204` that calls another at `208`
    before it returns. -/
def Console.nestedCalls : Console :=
  (Console.new {} 0).replay
    [.load [0x22, 0x04, 0x00, 0x00, 0x22, 0x08, 0x00, 0xEE, 0x00, 0xEE]]

/-- What happens to it between its first call and the return from it. -/
def Console.innerCall : List Console.Event :=
  [.step, .tick, .keys (.set 0x3 true), .step]

open Console in
/-- The outer call returns to `202` and leaves the stack empty. -/
theorem call_return_discipline_nested :
    (∀ e ∈ innerCall, e.isLoad = false) ∧
      nestedCalls.machine.nextWord.family = 0x2 ∧
      (∀ n ≤ innerCall.length,
        (nestedCalls.step.2.replay (innerCall.take n)).depth ≠ nestedCalls.depth) ∧
      (nestedCalls.step.2.replay innerCall).machine.nextWord = 0x00EE ∧
      (nestedCalls.step.2.replay innerCall).depth = nestedCalls.depth + 1 ∧
      (nestedCalls.step.2.replay innerCall).step.2.machine.memory.counter.toNat =
        (nestedCalls.machine.memory.counter.toNat + 2) % 4096 ∧
      (nestedCalls.step.2.replay innerCall).step.2.stack = nestedCalls.stack := by
  have running : ∀ e ∈ innerCall, e.isLoad = false := by decide
  have call : nestedCalls.machine.nextWord.family = 0x2 := by decide +kernel
  have deep : ∀ n ≤ innerCall.length,
      (nestedCalls.step.2.replay (innerCall.take n)).depth ≠ nestedCalls.depth := by
    decide +kernel
  have ret : (nestedCalls.step.2.replay innerCall).machine.nextWord = 0x00EE := by
    decide +kernel
  have matched : (nestedCalls.step.2.replay innerCall).depth = nestedCalls.depth + 1 := by
    decide +kernel
  exact ⟨running, call, deep, ret, matched,
    (call_return_discipline running).2.2 call deep ret matched⟩

end ChipEight
