import ChipEight.Machine.Outcome
import ChipEight.Proofs.Text.Clauses

/-!
# Reading Reports

The values that an executed instruction adds to its trace are meant for people:
`PC left at 0x202` and `returning to 0x202` say the same of the program counter,
and `V3: 0x05 -> 0x06` says something about two moments. This module reads such a
text back into a list of reports, each about one part of the machine.

A reader of that kind is only worth something if it does not pass over what it
fails to understand. `statements_text` settles this: for every detail that an
instruction can leave, it says which reports its text is read as, so nothing that
is written about the parts of the machine gets lost on the way through the text.

## Main definitions

* `Subject`, `Statement`: A part of the machine, and what is said about it.
* `Statement.read?`: What a clause says.
* `statements`: What a text says.
* `Detail.clauses`, `Detail.statements`: The words of a detail, and what they say.

## Theorems

* `Detail.text_eq`: The text of a detail is made of its words.
* `Detail.plain_clauses`: They come apart from one another.
* `statements_text`: What the text of a detail says.
-/

namespace ChipEight

/-- The parts of a machine that texts report on. -/
inductive Subject where
  | register (x : Register)
  | counter
  | index
  | delay
  | sound
  /-- The address on top of the stack. -/
  | returnAddress
  /-- The number of addresses on the stack. -/
  | depth
  deriving DecidableEq, Repr

/-- What a text says a part of the machine holds, and what it held before, if the
    text says so. -/
structure Statement where
  subject : Subject
  before : Option Nat := none
  value : Nat
  deriving DecidableEq, Repr

/-- The register with a name. -/
def registerNamed? (name : String) : Option Register :=
  (List.finRange 16).find? fun x => registerName x == name

namespace Subject

/-- The part of the machine that words in front of a number announce. -/
def announced? : List String → Option Subject
  | ["PC", "="] | ["PC", "left", "at"] | ["holding", "PC", "at"] => some counter
  | ["returning", "to"] | ["continuing", "at"] => some counter
  | ["return", "address"] => some returnAddress
  | ["depth"] => some depth
  | ["I", "="] => some index
  | ["DT", "="] => some delay
  | ["ST", "="] => some sound
  | [name, "="] => (registerNamed? name).map register
  | _ => none

/-- The part of the machine that a word in front of two numbers announces. -/
def changed? (word : String) : Option Subject :=
  if word = "I:" then some index
  else ((List.finRange 16).find? fun x => registerName x ++ ":" == word).map register

end Subject

namespace Statement

/-- What a clause says: a number after what it belongs to, or two numbers with an
    arrow between them. -/
def read? (clause : List String) : Option Statement :=
  match clause with
  | [name, before, "->", after] => do
    return ⟨← Subject.changed? name, some (← Numeral.ofWord? before), ← Numeral.ofWord? after⟩
  | _ => do
    return ⟨← Subject.announced? clause.dropLast, none, ← Numeral.ofWord? (← clause.getLast?)⟩

end Statement

/-- What a text says about the parts of a machine, clause by clause. -/
def statements (text : String) : List Statement :=
  (Text.clauses text).filterMap Statement.read?

namespace Detail

/-! ### The words of a detail -/

/-- What a register held and holds, in words. -/
def changeWords (c : Assignment) : List String :=
  [registerName c.register ++ ":", Hex.byteLiteral c.before, "->", Hex.byteLiteral c.after]

/-- Whether a skip instruction skipped, in words. -/
def skipWords (skipped : Bool) : List String :=
  if skipped then ["skipped"] else ["not", "skipped"]

/-- The words of a detail. The empty text is one clause without a word. -/
def clauses : Detail → List (List String)
  | silent => [[]]
  | returned a => [["returning", "to", Hex.addressLiteral a]]
  | stackEmpty a => [["stack", "was", "empty"], ["PC", "left", "at", Hex.addressLiteral a]]
  | called a depth => [["return", "address", Hex.addressLiteral a], ["depth", depth.repr]]
  | compared operands skipped =>
    operands.map (fun o => [registerName o.1, "=", Hex.byteLiteral o.2]) ++ [skipWords skipped]
  | keyTested key pressed skipped =>
    [["key", Hex.upper 1 key.val, "pressed", "=", toString pressed], skipWords skipped]
  | assigned c => [changeWords c]
  | assignedWithFlag c flag => [changeWords c, ["VF", "=", flag.toNat.repr]]
  | jumped a => [["PC", "=", Hex.addressLiteral a]]
  | drawn x y collision =>
    [["at", "(" ++ x.toNat.repr], [y.toNat.repr ++ ")"], ["VF", "=", bitText collision]]
  | planes s => [["planes", s.name]]
  | keyTaken key c => [["key", Hex.upper 1 key.val], changeWords c]
  | held a => [["no", "key", "pressed"], ["holding", "PC", "at", Hex.addressLiteral a]]
  | delaySet v => [["DT", "=", Hex.byteLiteral v]]
  | soundSet v => [["ST", "=", Hex.byteLiteral v]]
  | indexMoved a b => [["I:", Hex.addressLiteral a, "->", Hex.addressLiteral b]]
  | glyphChosen digit a =>
    [["glyph", Hex.upper 1 digit.val], ["I", "=", Hex.addressLiteral a]]
  | digitsStored v h t o =>
    [[v.toNat.repr, "->", "[" ++ h.toNat.repr], [t.toNat.repr], [o.toNat.repr ++ "]"]]
  | indexLeft a => [["I", "=", Hex.addressLiteral a]]
  | ignored a => [["ignored"], ["continuing", "at", Hex.addressLiteral a]]

theorem operandText_eq (x : Register) (value : UInt8) :
    operandText x value = " ".intercalate [registerName x, "=", Hex.byteLiteral value] := by
  delta operandText
  simp [← String.toList_inj, toString_string]

theorem skipText_eq (skipped : Bool) : skipText skipped = " ".intercalate (skipWords skipped) := by
  cases skipped <;> rfl

theorem text_eq (d : Detail) : d.text = Text.joined d.clauses := by
  rw [← String.toList_inj]
  cases d <;> delta Detail.text
  case compared operands skipped =>
    simp only [clauses, Text.joined, List.map_append, List.map_map, List.map_singleton,
      operandText_eq, skipText_eq]
    rfl
  all_goals simp [clauses, Text.joined, changeWords, Assignment.text, toString_string, skipText_eq]

theorem plain_byteLiteral (b : UInt8) : Text.Plain (Hex.byteLiteral b) :=
  Text.plain_of_numeral (Numeral.ofWord?_literal 2 b.toNat)

theorem plain_addressLiteral (a : Address) : Text.Plain (Hex.addressLiteral a) :=
  Text.plain_of_numeral (Numeral.ofWord?_literal 3 a.toNat)

theorem plain_repr (n : Nat) : Text.Plain n.repr :=
  Text.plain_of_numeral (Numeral.ofWord?_repr n)

theorem plain_nibble : ∀ n : Nibble, Text.Plain (Hex.upper 1 n.val) := by
  decide +kernel

theorem plain_registerName : ∀ x : Register, Text.Plain (registerName x) := by
  decide +kernel

theorem plain_skipWords : ∀ skipped, ∀ w ∈ skipWords skipped, Text.Plain w := by
  decide

/-- No word of a detail holds anything that words are told apart by. -/
theorem plain_clauses (d : Detail) : ∀ c ∈ d.clauses, ∀ w ∈ c, Text.Plain w := by
  have hbool : ∀ b : Bool, Text.Plain (toString b) := by decide
  have hbit : ∀ b, Text.Plain (bitText b) := by decide
  have hname : ∀ s : Selection, Text.Plain s.name := by
    rintro (_ | _ | _ | _) <;> decide
  cases d
  case compared operands skipped =>
    rw [clauses, List.forall_mem_append, List.forall_mem_map]
    refine ⟨fun o _ => ?_, List.forall_mem_singleton.mpr (plain_skipWords skipped)⟩
    simp +decide only [List.forall_mem_cons, plain_registerName, plain_byteLiteral]
  case keyTested key pressed skipped =>
    rw [clauses, List.forall_mem_cons, List.forall_mem_singleton]
    refine ⟨?_, plain_skipWords skipped⟩
    simp +decide only [List.forall_mem_cons, plain_nibble, hbool]
  all_goals
    simp +decide only [clauses, changeWords, List.forall_mem_cons, plain_byteLiteral,
      plain_addressLiteral, plain_repr, plain_nibble, plain_registerName, Text.Plain.append, hbit,
      hname]

theorem clauses_ne_nil (d : Detail) : d.clauses ≠ [] := by
  cases d
  case compared =>
    exact List.append_ne_nil_of_right_ne_nil _ (List.cons_ne_nil _ _)
  all_goals exact List.cons_ne_nil _ _

/-! ### What a detail says -/

/-- What is said of a register that changed. -/
def changeStatement (c : Assignment) : Statement :=
  ⟨.register c.register, some c.before.toNat, c.after.toNat⟩

/-- What a detail says. -/
def statements : Detail → List Statement
  | returned a | jumped a | stackEmpty a | held a | ignored a => [⟨.counter, none, a.toNat⟩]
  | called a depth => [⟨.returnAddress, none, a.toNat⟩, ⟨.depth, none, depth⟩]
  | compared operands _ => operands.map fun o => ⟨.register o.1, none, o.2.toNat⟩
  | assigned c | keyTaken _ c => [changeStatement c]
  | assignedWithFlag c flag => [changeStatement c, ⟨.register flagRegister, none, flag.toNat⟩]
  | drawn _ _ collision => [⟨.register flagRegister, none, collision.toNat⟩]
  | delaySet v => [⟨.delay, none, v.toNat⟩]
  | soundSet v => [⟨.sound, none, v.toNat⟩]
  | indexMoved a b => [⟨.index, some a.toNat, b.toNat⟩]
  | glyphChosen _ a | indexLeft a => [⟨.index, none, a.toNat⟩]
  | silent | keyTested _ _ _ | planes _ | digitsStored _ _ _ _ => []

theorem ofWord?_byteLiteral (b : UInt8) : Numeral.ofWord? (Hex.byteLiteral b) = some b.toNat :=
  Numeral.ofWord?_literal 2 b.toNat

theorem ofWord?_addressLiteral (a : Address) :
    Numeral.ofWord? (Hex.addressLiteral a) = some a.toNat :=
  Numeral.ofWord?_literal 3 a.toNat

theorem announced?_register :
    ∀ x, Subject.announced? [registerName x, "="] = some (.register x) := by
  decide +kernel

theorem changed?_register : ∀ x, Subject.changed? (registerName x ++ ":") = some (.register x) := by
  decide +kernel

theorem read?_skipWords (skipped : Bool) : Statement.read? (skipWords skipped) = none := by
  cases skipped <;> rfl

end Detail

/-- What the text of a detail says is what the detail says, no more and no less. -/
theorem statements_text (d : Detail) : statements d.text = d.statements := by
  have hflag : registerNamed? "VF" = some flagRegister := by decide +kernel
  have hindex : Subject.changed? "I:" = some .index := rfl
  have hbit : ∀ b, Numeral.ofWord? (bitText b) = some b.toNat := by decide
  rw [statements, d.text_eq, Text.clauses_joined d.clauses_ne_nil d.plain_clauses]
  -- The words are known by now. Those of a skip end with a clause that says nothing.
  cases d
  case compared operands skipped =>
    have hoperand : ∀ o : Register × UInt8,
        Statement.read? [registerName o.1, "=", Hex.byteLiteral o.2] =
          some ⟨.register o.1, none, o.2.toNat⟩ := by
      intro o
      simp [Statement.read?, Detail.announced?_register, Detail.ofWord?_byteLiteral]
    simp only [Detail.clauses, Detail.statements, List.filterMap_append, List.filterMap_map,
      Function.comp_def, hoperand, List.filterMap_cons, List.filterMap_nil,
      Detail.read?_skipWords, List.append_nil, List.filterMap_eq_map']
  case keyTested key pressed skipped =>
    have hkey : Statement.read? ["key", Hex.upper 1 key.val, "pressed", "=", toString pressed] =
        none := by
      simp [Statement.read?, Subject.announced?]
    rw [Detail.clauses, List.filterMap_cons_none hkey,
      List.filterMap_cons_none (Detail.read?_skipWords skipped)]
    rfl
  all_goals
    simp [Detail.clauses, Detail.statements, Detail.changeWords, Detail.changeStatement,
      Statement.read?, Subject.announced?, hindex, hflag, hbit, Detail.changed?_register,
      Detail.ofWord?_byteLiteral, Detail.ofWord?_addressLiteral, Numeral.ofWord?_repr]

end ChipEight
