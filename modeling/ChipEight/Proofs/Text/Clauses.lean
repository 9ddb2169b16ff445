import ChipEight.Proofs.Text.Numerals

/-!
# Texts of Clauses

A text is taken apart at its commas into clauses, and a clause at its blanks
into words. This undoes putting words together as long as no word holds a comma
or a blank itself, which no numeral does.

A clause after a comma begins with a blank, so it has an empty word in front.
Empty words are dropped, and nothing is lost by it because no word that is
written is empty.

## Main definitions

* `Text.clauses`: The clauses of a text, each as its words.
* `Text.joined`: The text that clauses make.
* `Text.Plain`, `Text.isPlain`: A word that comes apart from others.

## Theorems

* `Text.clauses_joined`: Clauses of plain words are got back from their text.
* `Text.plain_of_numeral`: Numerals are plain.
-/

namespace ChipEight

/-- A text within a text is put there as it is. -/
theorem toString_string (s : String) : toString s = s :=
  rfl

namespace Text

/-- The words of a clause. -/
def words (clause : List Char) : List String :=
  ((clause.splitOn ' ').filter fun word => !word.isEmpty).map String.ofList

/-- The clauses of a text, each as its words. -/
def clauses (text : String) : List (List String) :=
  (text.toList.splitOn ',').map words

/-- The text that clauses make. -/
def joined (clauses : List (List String)) : String :=
  ", ".intercalate (clauses.map fun words => " ".intercalate words)

/-- A word that comes apart from others: it is not empty, and neither a blank nor
    a comma is in it. -/
structure Plain (word : String) : Prop where
  nonempty : word ≠ ""
  unbroken : ∀ c ∈ word.toList, c ≠ ' ' ∧ c ≠ ','

/-- Whether a word is plain, as a test of its characters. -/
def isPlain (word : String) : Bool :=
  word != "" && word.toList.all fun c => c != ' ' && c != ','

theorem isPlain_iff {word : String} : isPlain word = true ↔ Plain word := by
  rw [isPlain, Bool.and_eq_true, bne_iff_ne, List.all_eq_true]
  constructor
  · rintro ⟨nonempty, unbroken⟩
    refine ⟨nonempty, fun c hc => ?_⟩
    simpa only [Bool.and_eq_true, bne_iff_ne] using unbroken c hc
  · rintro ⟨nonempty, unbroken⟩
    refine ⟨nonempty, fun c hc => ?_⟩
    simpa only [Bool.and_eq_true, bne_iff_ne] using unbroken c hc

instance (word : String) : Decidable (Plain word) :=
  decidable_of_iff _ isPlain_iff

/-! ### Plain words -/

theorem Plain.append {first second : String} (left : Plain first) (right : Plain second) :
    Plain (first ++ second) := by
  refine ⟨fun empty => left.nonempty (String.append_eq_empty_iff.mp empty).1, ?_⟩
  rw [String.toList_append]
  exact List.forall_mem_append.mpr ⟨left.unbroken, right.unbroken⟩

/-- What is read as a number consists of digits. -/
theorem digit_of_mem_readFrom {base start n : Nat} {cs : List Char}
    (read : Numeral.readFrom base start cs = some n) :
    ∀ c ∈ cs, (Numeral.digit? base c).isSome := by
  induction cs generalizing start with
  | nil => exact fun c absent => absurd absent List.not_mem_nil
  | cons c rest ih =>
      cases hdigit : Numeral.digit? base c with
      | none =>
          rw [Numeral.readFrom, List.foldlM_cons, hdigit] at read
          cases read
      | some d =>
          rw [Numeral.readFrom, List.foldlM_cons, hdigit] at read
          refine List.forall_mem_cons.mpr ⟨by rw [hdigit]; rfl, ih read⟩

/-- A character that is no digit does not occur in what is read as a number. -/
theorem not_mem_of_read? {base n : Nat} {cs : List Char} {c : Char}
    (read : Numeral.read? base cs = some n) (other : Numeral.digit? base c = none) : c ∉ cs := by
  intro member
  unfold Numeral.read? at read
  split at read
  · cases read
  · have hdigit := digit_of_mem_readFrom read c member
    rw [other] at hdigit
    cases hdigit

theorem unbroken_of_digit : ∀ c, (Numeral.digit? 10 c).isSome ∨ (Numeral.digit? 16 c).isSome →
    c ≠ ' ' ∧ c ≠ ',' := by
  intro c digit
  constructor
  · rintro rfl
    exact absurd digit (by decide)
  · rintro rfl
    exact absurd digit (by decide)

/-- What is read as a number consists of digits, and of a mark in front of them. -/
theorem plain_of_numeral {word : String} {n : Nat} (read : Numeral.ofWord? word = some n) :
    Plain word := by
  have hdigits : ∀ base cs, base = 10 ∨ base = 16 → Numeral.read? base cs = some n →
      cs ≠ [] ∧ ∀ c ∈ cs, c ≠ ' ' ∧ c ≠ ',' := by
    intro base cs hbase hread
    unfold Numeral.read? at hread
    split at hread
    · cases hread
    · rename_i nonempty
      refine ⟨nonempty, fun c hc => unbroken_of_digit c ?_⟩
      have hdigit := digit_of_mem_readFrom hread c hc
      rcases hbase with rfl | rfl
      · exact .inl hdigit
      · exact .inr hdigit
  unfold Numeral.ofWord? at read
  split at read
  case h_1 digits hword =>
      rcases hdigits 16 digits (.inr rfl) read with ⟨-, hunbroken⟩
      refine ⟨fun empty => ?_, ?_⟩
      · rw [empty] at hword
        cases hword
      · rw [hword]
        exact List.forall_mem_cons.mpr ⟨by decide, List.forall_mem_cons.mpr
          ⟨by decide, hunbroken⟩⟩
  case h_2 =>
      rcases hdigits 10 _ (.inl rfl) read with ⟨hnonempty, hunbroken⟩
      exact ⟨fun empty => hnonempty (congrArg String.toList empty), hunbroken⟩

/-! ### Taking texts apart -/

/-- The words of a clause are got back from it. -/
theorem words_intercalate {ws : List String} (plain : ∀ w ∈ ws, Plain w) :
    words (" ".intercalate ws).toList = ws := by
  have hlist : (" ".intercalate ws).toList = [' '].intercalate (ws.map String.toList) :=
    String.toList_intercalate
  rw [hlist, words]
  cases ws with
  | nil => rfl
  | cons w rest =>
      have hblank : ∀ l ∈ (w :: rest).map String.toList, ' ' ∉ l := by
        intro l hl hc
        rcases List.mem_map.mp hl with ⟨v, hv, rfl⟩
        exact ((plain v hv).unbroken ' ' hc).1 rfl
      have hnonempty : ∀ l ∈ (w :: rest).map String.toList, (!l.isEmpty) = true := by
        intro l hl
        rcases List.mem_map.mp hl with ⟨v, hv, rfl⟩
        rw [Bool.not_eq_true', List.isEmpty_eq_false_iff]
        exact fun empty => (plain v hv).nonempty (String.toList_eq_nil_iff.mp empty)
      rw [List.splitOn_intercalate ' ' hblank (List.cons_ne_nil _ _),
        List.filter_eq_self.mpr hnonempty, List.map_map]
      exact List.map_id'' (fun _ => String.ofList_toList) _

/-- A blank in front of a clause makes no difference to its words. -/
theorem words_blank (clause : List Char) : words (' ' :: clause) = words clause := by
  rw [words, List.splitOn_cons_eq_if_modifyHead, if_pos (by decide), List.filter_cons_of_neg, words]
  decide

/-- A blank after every comma may as well be counted among the characters that
    follow. -/
theorem intercalate_comma_blank (first : List Char) (rest : List (List Char)) :
    [',', ' '].intercalate (first :: rest) = [','].intercalate (first :: rest.map (' ' :: ·)) := by
  -- The blank goes with the clause after it, so the first clause varies.
  induction rest generalizing first with
  | nil => rfl
  | cons second rest ih =>
      rw [List.intercalate_cons_cons, ih, List.map_cons, List.intercalate_cons_cons]
      cases rest with
      | nil => simp
      | cons third rest => simp [List.intercalate_cons_cons]

/-- What stands in a clause stands in one of its words or is a blank. -/
theorem mem_clause {ws : List String} {c : Char} (member : c ∈ (" ".intercalate ws).toList) :
    c = ' ' ∨ ∃ w ∈ ws, c ∈ w.toList := by
  induction ws with
  | nil => cases member
  | cons w rest ih =>
      cases rest with
      | nil =>
          rw [String.intercalate_singleton] at member
          exact .inr ⟨w, List.mem_singleton.mpr rfl, member⟩
      | cons v rest =>
          rw [String.intercalate_cons_cons, String.toList_append, String.toList_append,
            List.mem_append, List.mem_append] at member
          rcases member with (hw | hblank) | hrest
          · exact .inr ⟨w, List.mem_cons_self, hw⟩
          · exact .inl (List.mem_singleton.mp hblank)
          · rcases ih hrest with hblank | ⟨u, hu, hc⟩
            · exact .inl hblank
            · exact .inr ⟨u, List.mem_cons_of_mem w hu, hc⟩

theorem comma_not_mem_clause {ws : List String} (plain : ∀ w ∈ ws, Plain w) :
    ',' ∉ (" ".intercalate ws).toList := by
  intro member
  rcases mem_clause member with hblank | ⟨w, hw, hc⟩
  · exact absurd hblank (by decide)
  · exact ((plain w hw).unbroken ',' hc).2 rfl

/-- Clauses of plain words are got back from their text. -/
theorem clauses_joined {cs : List (List String)} (some : cs ≠ [])
    (plain : ∀ c ∈ cs, ∀ w ∈ c, Plain w) : clauses (joined cs) = cs := by
  cases cs with
  | nil => exact absurd rfl some
  | cons first rest =>
      let spell : List String → List Char := fun ws => (" ".intercalate ws).toList
      have hlist : (joined (first :: rest)).toList =
          [','].intercalate (spell first :: (rest.map spell).map (' ' :: ·)) := by
        rw [joined, String.toList_intercalate, List.map_map]
        exact intercalate_comma_blank _ _
      -- Taking apart at the commas undoes this if none is in a clause.
      have hcomma : ∀ l ∈ spell first :: (rest.map spell).map (' ' :: ·), ',' ∉ l := by
        rw [List.map_map]
        refine List.forall_mem_cons.mpr ⟨?_, List.forall_mem_map.mpr fun ws hws => ?_⟩
        · exact comma_not_mem_clause (plain first List.mem_cons_self)
        · rw [Function.comp_apply, List.mem_cons, not_or]
          exact ⟨by decide, comma_not_mem_clause (plain ws (List.mem_cons_of_mem _ hws))⟩
      have hwords : ∀ ws ∈ first :: rest, words (spell ws) = ws := fun ws hws =>
        words_intercalate (plain ws hws)
      rw [clauses, hlist, List.splitOn_intercalate ',' hcomma (List.cons_ne_nil _ _), List.map_cons,
        List.map_map, List.map_map, hwords first List.mem_cons_self]
      congr 1
      refine (List.map_congr_left fun ws hws => ?_).trans (List.map_id rest)
      rw [Function.comp_apply, Function.comp_apply, words_blank,
        hwords ws (List.mem_cons_of_mem first hws), id]

end Text

end ChipEight
