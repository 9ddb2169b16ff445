import ChipEight.Text.Hex

/-!
# Texts of Lines

A text is cut into lines at its newlines, and a line into columns by counting
characters. Both undo putting together: lines as long as there is no newline in
any of them, columns as long as everything to their left has the width it should
have.

Some texts end every line with a newline and some only separate their lines by
one. Cutting makes an empty last line of the difference, so empty lines are
dropped. Nothing is lost by it because no line that is written is empty.

## Main definitions

* `Text.lines`: The lines of a text.
* `Text.ended`: The text of lines that each end with a newline.
* `Text.columns`: A part of a line.
* `Text.Whole`: A line that comes apart from others.

## Theorems

* `Text.lines_cons`: The first line of a text and the lines after it.
* `Text.lines_ended`, `Text.lines_intercalate`: Lines are got back from their text.
* `Text.columns_append`: A column is got back from its line.
-/

namespace ChipEight

namespace Text

/-- The lines of a text in which there is anything. -/
def lines (text : List Char) : List (List Char) :=
  (text.splitOn '\n').filter fun line => !line.isEmpty

/-- The text of lines that each end with a newline. -/
def ended (ls : List (List Char)) : List Char :=
  ls.flatMap fun line => line ++ ['\n']

/-- So many characters of a line, after so many others. -/
def columns (first width : Nat) (line : List Char) : List Char :=
  (line.drop first).take width

/-- A line that comes apart from others: there is something in it, and no newline. -/
structure Whole (line : List Char) : Prop where
  nonempty : line ≠ []
  unbroken : '\n' ∉ line

/-! ### Lines -/

theorem Whole.not_isEmpty {line : List Char} (whole : Whole line) : (!line.isEmpty) = true := by
  rw [Bool.not_eq_true', List.isEmpty_eq_false_iff]
  exact whole.nonempty

theorem lines_cons {line : List Char} (whole : Whole line) (rest : List Char) :
    lines (line ++ '\n' :: rest) = line :: lines rest := by
  rw [lines, List.splitOn_append_cons_self_of_not_mem whole.unbroken, List.filter_cons,
    if_pos whole.not_isEmpty, lines]

theorem lines_ended {ls : List (List Char)} (whole : ∀ l ∈ ls, Whole l) :
    lines (ended ls) = ls := by
  induction ls with
  | nil => rfl
  | cons line rest ih =>
      rcases List.forall_mem_cons.mp whole with ⟨first, others⟩
      rw [ended, List.flatMap_cons, List.append_assoc, List.singleton_append, lines_cons first,
        ← ended, ih others]

theorem lines_intercalate {ls : List (List Char)} (whole : ∀ l ∈ ls, Whole l) :
    lines (['\n'].intercalate ls) = ls := by
  cases ls with
  | nil => rfl
  | cons line rest =>
      rw [lines, List.splitOn_intercalate '\n' (fun l hl => (whole l hl).unbroken)
        (List.cons_ne_nil _ _)]
      exact List.filter_eq_self.mpr fun l hl => (whole l hl).not_isEmpty

/-! ### Columns -/

theorem columns_append {before field : List Char} {first width : Nat}
    (left : before.length = first) (wide : field.length = width) (after : List Char) :
    columns first width (before ++ (field ++ after)) = field := by
  rw [columns, List.drop_left' left, List.take_left' wide]

end Text

end ChipEight
