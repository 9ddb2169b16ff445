import ChipEight.Proofs.Checked.Memory
import ChipEight.Proofs.Memory.Wrapping

/-!
# What is Fetched is what is Listed

A stretch of memory can be taken for instruction words in two ways. A program that
never jumps fetches one word after another, and the counter wraps around memory after
each of them. A listing adds twice the number of a word to the address it begins at,
in all sixteen bits, and wraps what comes out.

The two count around at different places. They come to the same addresses because the
size of memory divides the number of addresses, so that wrapping early does not change
what a later step wraps to: `Memory.advance_setCounter` puts the counter where it
would be if nothing had been wrapped before. With that both ways obey one recursion,
on the number of words, and it does not matter how often they go around memory, or
whether a word is cut in two by its end.

## Main definitions

* `Memory.fetches`: A number of words, fetched one after another.

## Theorems

* `Memory.wordsFrom_succ`: A listing is its first word and the listing after it.
* `Memory.fetches_setCounter`: What is fetched, and where that leads.
* `Memory.retreat_advance`, `Memory.advance_retreat`: Moving the counter back and
  forth.
* `words_listed_as_fetched`: A listing shows what a program fetches.
-/

namespace ChipEight

theorem wrapAddress_add_sub (a k : Address) :
    wrapAddress (wrapAddress (a - k) + k) = wrapAddress a := by
  rw [wrapAddress_add_congr (wrapAddress_wrapAddress (a - k)), UInt16.sub_add_cancel]

/-- One word further on, there is one word less to go. -/
theorem add_two_add_ofNat (a : Address) (k : Nat) :
    a + 2 + UInt16.ofNat (2 * k) = a + UInt16.ofNat (2 * (k + 1)) := by
  rw [Nat.mul_succ, Nat.add_comm, UInt16.ofNat_add, ← UInt16.add_assoc]
  rfl

namespace Memory

/-- Fetches a number of words, one after another: the words, each beside the counter
    before it, and the memory with the counter behind them all. -/
def fetches (m : Memory) : Nat → List (Address × Word) × Memory
  | 0 => ([], m)
  | n + 1 =>
    let rest := m.fetch.2.fetches n
    ((m.counter, m.fetch.1) :: rest.1, rest.2)

variable (m : Memory) {a b : Address}

/-! ### The counter -/

theorem setCounter_congr (alike : wrapAddress a = wrapAddress b) :
    m.setCounter a = m.setCounter b := by
  rw [setCounter, alike, setCounter]

/-- To move the counter on from where it wrapped to is to move it on from where it
    was to go. -/
theorem advance_setCounter (a : Address) : (m.setCounter a).advance = m.setCounter (a + 2) :=
  m.setCounter_congr (wrapAddress_add_congr (wrapAddress_wrapAddress a) 2)

variable {m}

theorem setCounter_of_wrapped (inside : m.counter.toNat < 4096)
    (back : wrapAddress a = wrapAddress m.counter) : m.setCounter a = m := by
  rw [setCounter, back, wrapAddress_of_lt inside]

theorem retreat_advance (inside : m.counter.toNat < 4096) : m.advance.retreat = m :=
  setCounter_of_wrapped inside (wrapAddress_sub_add m.counter 2)

theorem advance_retreat (inside : m.counter.toNat < 4096) : m.retreat.advance = m :=
  setCounter_of_wrapped inside (wrapAddress_add_sub m.counter 2)

/-! ### Words in a row -/

variable (m)

/-- A listing is its first word and the listing that begins behind it. -/
theorem wordsFrom_succ (start : Address) (count : Nat) :
    m.wordsFrom start (count + 1) =
      (wrapAddress start, m.wordAt (wrapAddress start)) :: m.wordsFrom (start + 2) count := by
  rw [wordsFrom, List.range_succ_eq_map, List.map_cons, List.map_map, Nat.mul_zero,
    add_ofNat_zero, wordsFrom]
  refine congrArg _ (List.map_congr_left fun k _ => ?_)
  rw [Function.comp_apply, Nat.succ_eq_add_one, add_two_add_ofNat]

/-- What is fetched from an address on is what is listed from there, and the counter is
    left behind as many words. -/
theorem fetches_setCounter (start : Address) (count : Nat) :
    (m.setCounter start).fetches count =
      (m.wordsFrom start count, m.setCounter (start + UInt16.ofNat (2 * count))) := by
  -- Each word that is fetched moves the address that the others begin at.
  induction count generalizing start with
  | zero =>
      rw [Nat.mul_zero, add_ofNat_zero]
      rfl
  | succ count ih =>
      have hrest : (m.setCounter start).fetch.2.fetches count = _ :=
        (congrArg (fetches · count) (m.advance_setCounter start)).trans (ih (start + 2))
      rw [fetches, hrest, wordsFrom_succ, add_two_add_ofNat]
      rfl

theorem toNat_lt_of_mem_wordsFrom {start : Address} {count : Nat} {row : Address × Word}
    (listed : row ∈ m.wordsFrom start count) : row.1.toNat < 4096 := by
  rcases List.mem_map.mp listed with ⟨k, -, rfl⟩
  rw [toNat_wrapAddress]
  exact Nat.mod_lt _ (by decide)

end Memory

/-- A listing from an address on shows the words that are fetched one after another
    with the counter put there, each beside the counter before it, however often that
    goes around memory. Taking so many words does not fail before the distance of one
    of them is too large for an address. All addresses shown lie in memory, and a
    counter that lies in memory is brought back by moving it on and back, and by
    moving it back and on. -/
theorem words_listed_as_fetched (m : Memory) (start : Address) (count : Nat) :
    (m.wordsFrom start count = ((m.setCounter start).fetches count).1 ∧
      ((m.setCounter start).fetches count).2 = m.setCounter (start + .ofNat (2 * count))) ∧
    (count ≤ 32768 →
      m.wordsFromChecked start count = .ok ((m.setCounter start).fetches count).1) ∧
    (∀ row ∈ m.wordsFrom start count, row.1.toNat < 4096) ∧
    (m.counter.toNat < 4096 → m.advance.retreat = m ∧ m.retreat.advance = m) := by
  have hfetches := m.fetches_setCounter start count
  refine ⟨?_, fun fits => ?_, fun row => m.toNat_lt_of_mem_wordsFrom, fun inside => ?_⟩
  · rw [hfetches]
    exact ⟨rfl, rfl⟩
  · rw [hfetches, m.wordsFromChecked_eq start fits]
  · exact ⟨Memory.retreat_advance inside, Memory.advance_retreat inside⟩

namespace Memory

/-- Memory with the counter on a word that is cut in two by its end. -/
def straddled : Memory :=
  (({} : Memory).writeBlock 0xFFF [0xD0, 0x15]).setCounter 0xFFF

end Memory

open Memory in
/-- The word at the end is fetched three times on the way twice around memory. -/
theorem words_listed_as_fetched_twice_around :
    4097 ≤ 32768 ∧
      straddled.wordsFromChecked 0xFFFF 4097 =
        .ok ((straddled.setCounter 0xFFFF).fetches 4097).1 ∧
      ((straddled.setCounter 0xFFFF).fetches 4097).2 = straddled.setCounter 0x001 ∧
      (0xFFF, 0xD015) ∈ straddled.wordsFrom 0xFFFF 4097 ∧ (0xFFF : Address).toNat < 4096 ∧
      straddled.counter.toNat < 4096 ∧ straddled.advance.counter = 0x001 ∧
      straddled.advance.retreat = straddled ∧ straddled.retreat.advance = straddled := by
  rcases words_listed_as_fetched straddled 0xFFFF 4097 with ⟨⟨-, hleft⟩, hfits, hinside, hmoved⟩
  have hcounter : straddled.counter.toNat < 4096 := by decide +kernel
  have hfirst : (0xFFF, 0xD015) ∈ straddled.wordsFrom 0xFFFF 4097 := by
    have hword : straddled.wordAt (wrapAddress 0xFFFF) = 0xD015 := by decide +kernel
    rw [wordsFrom_succ, hword]
    exact List.mem_cons_self
  exact ⟨by decide, hfits (by decide), hleft, hfirst, hinside _ hfirst, hcounter,
    by decide +kernel, hmoved hcounter⟩

end ChipEight
