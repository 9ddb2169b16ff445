import ChipEight.Dump
import ChipEight.Proofs.Memory.Programs
import ChipEight.Proofs.Text.Clauses
import ChipEight.Proofs.Text.Lines
import Mathlib.Data.List.Basic

/-!
# Reading Dumps Back

Both dumps of a program can be read back, so neither of them loses anything.

A byte is always two digits, which is what makes reading from the left possible:
blanks are nothing and everything else comes in twos. What stands between the pairs
need not be known for that. In an annotated dump it matters after all, because a line
goes on with characters that may look like pairs themselves. There the pairs are read
from the columns that are theirs, and these have to be as wide for a last line of few
bytes as for a full one. `Dump.width` is the room that pairs take with their
separators. The pairs of a line and the filler behind them add up to the room for
sixteen whatever the number of pairs is.

Columns only hold their places while offsets have four digits, hence the bounds on
lengths. Programs are far below them.

## Main definitions

* `Dump.pairs?`: The bytes that pairs of digits stand for.
* `Dump.row?`: The offset and the bytes of a line.
* `Dump.report?`: The numbers in the header of a text, and its rows.
* `Dump.rows`: The rows that bytes are cut into.

## Theorems

* `Dump.pairs?_pairs`: Pairs are read back, whatever comes after them.
* `Dump.length_pairs_filler`: The room for pairs has one width.
* `Dump.row?_line`: A line is read back.
* `Dump.report?_annotated`: So is an annotated dump.
* `Memory.Loaded.romBytes`: A program just loaded is what its dumps show.
* `dumps_lose_nothing`: Both dumps give back the bytes in memory, and programs with
  the same dump are the same.
-/

namespace ChipEight

namespace Dump

/-- The bytes that pairs of digits stand for, whatever blanks are between the pairs. -/
def pairs? : List Char → Option (List UInt8)
  | [] => some []
  | [c] => if c = ' ' then some [] else none
  | high :: low :: rest =>
    if high = ' ' then pairs? (low :: rest)
    else do
      let b ← Numeral.read? 16 [high, low]
      let bytes ← pairs? rest
      return UInt8.ofNat b :: bytes

/-- The offset and the bytes that a line shows in its columns for them. -/
def row? (line : List Char) : Option (Nat × List UInt8) := do
  let offset ← Numeral.read? 16 (Text.columns 0 4 line)
  let bytes ← pairs? (Text.columns 8 50 line)
  return (offset, bytes)

/-- A word without its first and its last character. -/
def unbracketed (word : String) : String :=
  String.ofList (word.toList.drop 1).dropLast

/-- The number of bytes in a header, which tells it in decimal and, in brackets, in
    hexadecimal. -/
def lengths? (line : List Char) : Option (Nat × Nat) :=
  match Text.words line with
  | ["Length:", decimal, bracketed, "bytes"] => do
      let first ← Numeral.ofWord? decimal
      let second ← Numeral.ofWord? (unbracketed bracketed)
      return (first, second)
  | _ => none

/-- The numbers in the header of a text, and the offset and the bytes of every line
    after it. -/
def report? (text : String) : Option ((Nat × Nat) × List (Nat × List UInt8)) :=
  match Text.lines text.toList with
  | [] => none
  | first :: rest => do
      let lengths ← lengths? first
      let rows ← rest.mapM row?
      return (lengths, rows)

/-! ### Pairs -/

theorem pairs?_blank (rest : List Char) : pairs? (' ' :: rest) = pairs? rest := by
  cases rest with
  | nil => rfl
  | cons c rest => rw [pairs?, if_pos rfl]

theorem pairs?_blanks {blanks : List Char} (blank : ∀ c ∈ blanks, c = ' ') (rest : List Char) :
    pairs? (blanks ++ rest) = pairs? rest := by
  induction blanks with
  | nil => rfl
  | cons c blanks ih =>
      rcases List.forall_mem_cons.mp blank with ⟨rfl, others⟩
      rw [List.cons_append, pairs?_blank, ih others]

theorem length_lower_byte (b : UInt8) : (Hex.lower 2 b.toNat).toList.length = 2 :=
  Numeral.length_lower ((Nat.length_toDigits_le_iff (by decide) (by decide)).mpr b.toNat_lt)

theorem pairs?_byte (b : UInt8) (rest : List Char) :
    pairs? ((Hex.lower 2 b.toNat).toList ++ rest) = (pairs? rest).map (b :: ·) := by
  have hread := Numeral.read?_lower 2 b.toNat
  rcases List.length_eq_two.mp (length_lower_byte b) with ⟨high, low, hpair⟩
  rw [hpair] at hread
  have hhigh : high ≠ ' ' := by
    rintro rfl
    exact Text.not_mem_of_read? hread (by decide) List.mem_cons_self
  rw [hpair, List.cons_append, List.cons_append, List.nil_append, pairs?, if_neg hhigh, hread]
  cases pairs? rest with
  | none => rfl
  | some bytes => exact congrArg (fun b => some (b :: bytes)) UInt8.ofNat_toNat

theorem separator_blank (k : Nat) : ∀ c ∈ (separator k).toList, c = ' ' := by
  unfold separator
  split
  · simp
  · split <;> simp

/-- A byte at a place of a line: its pair and what stands before it. -/
def spaced (place : UInt8 × Nat) : List Char :=
  (separator place.2).toList ++ (Hex.lower 2 place.1.toNat).toList

theorem toList_pairs (bytes : List UInt8) :
    (pairs bytes).toList = bytes.zipIdx.flatMap spaced := by
  rw [pairs, String.toList_join, List.flatMap_map]
  exact congrArg (List.flatMap · _) (funext fun place => String.toList_append)

/-- Bytes are read back from their pairs, wherever in a line these begin. -/
theorem pairs?_zipIdx (bytes : List UInt8) (k : Nat) (rest : List Char) :
    pairs? ((bytes.zipIdx k).flatMap spaced ++ rest) = (pairs? rest).map (bytes ++ ·) := by
  induction bytes generalizing k with
  | nil => exact (Option.map_id' ..).symm
  | cons b bytes ih =>
      rw [List.zipIdx_cons, List.flatMap_cons, spaced, List.append_assoc, List.append_assoc,
        pairs?_blanks (separator_blank k), pairs?_byte, ih, Option.map_map]
      rfl

theorem pairs?_pairs (bytes : List UInt8) (rest : List Char) :
    pairs? ((pairs bytes).toList ++ rest) = (pairs? rest).map (bytes ++ ·) := by
  rw [toList_pairs, pairs?_zipIdx]

theorem filler_blank (present : Nat) : ∀ c ∈ (filler present).toList, c = ' ' := by
  rw [filler, String.toList_join, List.flatMap_map]
  intro c member
  rcases List.mem_flatMap.mp member with ⟨k, -, hc⟩
  rw [String.toList_append, List.mem_append] at hc
  rcases hc with hseparator | hroom
  · exact separator_blank _ c hseparator
  · simpa using hroom

/-! ### Widths -/

/-- The room that so many pairs take, with their separators. -/
def width (count : Nat) : Nat :=
  3 * count - 1 + (count - 1) / 4

theorem width_succ (k : Nat) : width (k + 1) = width k + ((separator k).toList.length + 2) := by
  rw [width, width, separator]
  split
  case isTrue h => rw [h]; rfl
  case isFalse h =>
      split
      · rw [show "  ".toList.length = 2 from rfl]
        omega
      · rw [show " ".toList.length = 1 from rfl]
        omega

/-- Pairs that begin at a place of a line end where those from its beginning would. -/
theorem length_zipIdx_pairs (bytes : List UInt8) (k : Nat) :
    width k + ((bytes.zipIdx k).flatMap spaced).length = width (k + bytes.length) := by
  induction bytes generalizing k with
  | nil => rfl
  | cons b bytes ih =>
      have hrest := ih (k + 1)
      rw [List.zipIdx_cons, List.flatMap_cons, List.length_append, spaced, List.length_append,
        length_lower_byte, ← Nat.add_assoc, ← width_succ, hrest, List.length_cons,
        Nat.add_right_comm, Nat.add_assoc]

theorem length_pairs (bytes : List UInt8) : (pairs bytes).toList.length = width bytes.length := by
  have hpairs := length_zipIdx_pairs bytes 0
  rwa [← toList_pairs, Nat.zero_add, show width 0 = 0 from rfl, Nat.zero_add] at hpairs

theorem length_missing (present count : Nat) :
    width present + ((List.range count).flatMap fun k =>
      (separator (present + k) ++ "  ").toList).length = width (present + count) := by
  induction count with
  | zero => rfl
  | succ count ih =>
      rw [List.range_succ, List.flatMap_append, List.length_append, ← Nat.add_assoc, ih,
        List.flatMap_singleton, String.toList_append, List.length_append]
      exact (width_succ (present + count)).symm

/-- The pairs of a line and what is left of their room take all of it. -/
theorem length_pairs_filler {bytes : List UInt8} (fits : bytes.length ≤ 16) :
    ((pairs bytes).toList ++ (filler bytes.length).toList).length = 50 := by
  rw [List.length_append, length_pairs, filler, String.toList_join, List.flatMap_map,
    length_missing, Nat.add_sub_cancel' fits]
  rfl

/-! ### Lines -/

/-- A line is an offset, a mark, the room for pairs and what comes after it. -/
theorem toList_line (offset : Nat) (bytes : List UInt8) :
    (line offset bytes).toList = (Hex.lower 4 offset).toList ++ ([':', ' ', ' ', ' '] ++
      ((pairs bytes).toList ++ (filler bytes.length).toList ++
        ([' ', ' ', ' '] ++ bytes.map glyph))) := by
  simp only [line, String.toList_append, String.toList_ofList, List.append_assoc]
  rfl

theorem row?_line {offset : Nat} (inside : offset < 65536) {bytes : List UInt8}
    (fits : bytes.length ≤ 16) : row? (line offset bytes).toList = some (offset, bytes) := by
  have hoffset : (Hex.lower 4 offset).toList.length = 4 :=
    Numeral.length_lower ((Nat.length_toDigits_le_iff (by decide) (by decide)).mpr inside)
  have hfirst : Text.columns 0 4 (line offset bytes).toList = (Hex.lower 4 offset).toList := by
    rw [toList_line]
    exact Text.columns_append List.length_nil hoffset _
  have hsecond : Text.columns 8 50 (line offset bytes).toList =
      (pairs bytes).toList ++ (filler bytes.length).toList := by
    rw [toList_line, ← List.append_assoc]
    exact Text.columns_append (by rw [List.length_append, hoffset]; rfl)
      (length_pairs_filler fits) _
  have hfiller : pairs? (filler bytes.length).toList = some [] := by
    rw [← List.append_nil (filler bytes.length).toList, pairs?_blanks (filler_blank _)]
    rfl
  rw [row?, hfirst, hsecond, Numeral.read?_lower, pairs?_pairs, hfiller, Option.map_some,
    List.append_nil]
  rfl

/-- The bytes of the line with a number. -/
def chunk (bytes : List UInt8) (k : Nat) : List UInt8 :=
  (bytes.drop (16 * k)).take 16

/-- The offsets of the lines for bytes, and the bytes of each. -/
def rows (bytes : List UInt8) : List (Nat × List UInt8) :=
  (List.range ((bytes.length + 15) / 16)).map fun k => (16 * k, chunk bytes k)

theorem mapM_row?_lines (offset : Nat) (bytes : List UInt8)
    (inside : offset + 16 * ((bytes.length + 15) / 16) ≤ 65536) :
    ((lines offset bytes).map String.toList).mapM row? =
      some ((List.range ((bytes.length + 15) / 16)).map fun k =>
        (offset + 16 * k, chunk bytes k)) := by
  fun_induction lines offset bytes with
  | case1 => rfl
  | case2 offset bytes nonempty ih =>
      have hlength : 0 < bytes.length := List.length_pos_iff.mpr nonempty
      have hcount : (bytes.length + 15) / 16 = ((bytes.drop 16).length + 15) / 16 + 1 := by
        rw [List.length_drop]
        omega
      have hfirst : row? (line offset (bytes.take 16)).toList = some (offset, bytes.take 16) :=
        row?_line (by omega) (List.length_take_le 16 bytes)
      have hrest := ih (by omega)
      -- The lines that follow count from the second one.
      have hnumber : ∀ k, (offset + 16 + 16 * k, chunk (bytes.drop 16) k) =
          (offset + 16 * k.succ, chunk bytes k.succ) := by
        intro k
        rw [chunk, chunk, List.drop_drop, Nat.mul_succ, Nat.add_comm (16 * k) 16, Nat.add_assoc]
      rw [List.map_cons, List.mapM_cons, hfirst, hrest, hcount, List.range_succ_eq_map,
        List.map_cons, List.map_map, List.map_congr_left fun k _ => hnumber k]
      rfl

theorem flatMap_chunk (bytes : List UInt8) (count : Nat) :
    (List.range count).flatMap (chunk bytes) = bytes.take (16 * count) := by
  induction count with
  | zero => rfl
  | succ count ih =>
      rw [List.range_succ, List.flatMap_append, ih, List.flatMap_singleton, chunk, ← List.take_add,
        Nat.mul_succ]

theorem flatMap_rows (bytes : List UInt8) : (rows bytes).flatMap Prod.snd = bytes := by
  rw [rows, List.flatMap_map]
  exact (flatMap_chunk _ _).trans (List.take_of_length_le (by omega))

theorem glyph_ne_newline (b : UInt8) : glyph b ≠ '\n' := by
  have hprintable : ∀ n ≤ 0x7E, 0x20 ≤ n → Char.ofNat n ≠ '\n' := by decide
  unfold glyph
  split
  case isTrue h => exact hprintable _ h.2 h.1
  case isFalse => decide

theorem newline_not_mem_lower (width n : Nat) : '\n' ∉ (Hex.lower width n).toList :=
  Text.not_mem_of_read? (Numeral.read?_lower width n) (by decide)

theorem whole_line (offset : Nat) (bytes : List UInt8) : Text.Whole (line offset bytes).toList := by
  have hblank : ∀ {blanks : List Char}, (∀ c ∈ blanks, c = ' ') → '\n' ∉ blanks :=
    fun blank member => absurd (blank _ member) (by decide)
  have hpairs : '\n' ∉ (pairs bytes).toList := by
    rw [toList_pairs]
    intro member
    rcases List.mem_flatMap.mp member with ⟨place, -, hplace⟩
    rcases List.mem_append.mp hplace with hseparator | hpair
    · exact hblank (separator_blank _) hseparator
    · exact newline_not_mem_lower _ _ hpair
  have hglyphs : '\n' ∉ bytes.map glyph := by
    intro member
    rcases List.mem_map.mp member with ⟨b, -, hb⟩
    exact glyph_ne_newline b hb
  rw [toList_line]
  constructor
  · simp
  · simp only [List.mem_append, not_or]
    exact ⟨newline_not_mem_lower _ _, by decide,
      ⟨hpairs, hblank (filler_blank _)⟩, by decide, hglyphs⟩

theorem whole_of_mem_lines (offset : Nat) (bytes : List UInt8) :
    ∀ l ∈ lines offset bytes, Text.Whole l.toList := by
  fun_induction lines offset bytes with
  | case1 => exact fun l absent => absurd absent List.not_mem_nil
  | case2 offset bytes nonempty ih => exact List.forall_mem_cons.mpr ⟨whole_line _ _, ih⟩

/-! ### Reports -/

theorem unbracketed_append (word : String) : unbracketed ("(" ++ word ++ ")") = word := by
  have hinner : (("(" ++ word ++ ")").toList.drop 1) = word.toList ++ [')'] := by
    rw [String.toList_append, String.toList_append]
    rfl
  rw [unbracketed, hinner, List.dropLast_concat, String.ofList_toList]

/-- The words of a header. -/
def headerWords (length : Nat) : List String :=
  ["Length:", length.repr, "(" ++ ("0x" ++ Hex.lower 1 length) ++ ")", "bytes"]

theorem toList_header (length : Nat) :
    (header length).toList = (" ".intercalate (headerWords length)).toList ++ ['\n'] := by
  delta header headerWords
  simp [toString_string]

theorem plain_headerWords (length : Nat) : ∀ w ∈ headerWords length, Text.Plain w := by
  have hdecimal := Text.plain_of_numeral (Numeral.ofWord?_repr length)
  have hhexadecimal : Text.Plain ("0x" ++ Hex.lower 1 length) :=
    Text.plain_of_numeral (Numeral.ofWord?_lower 1 length)
  simp +decide only [headerWords, List.forall_mem_cons, hdecimal, hhexadecimal, Text.Plain.append]

theorem newline_not_mem_headerWords (length : Nat) :
    ∀ w ∈ headerWords length, '\n' ∉ w.toList := by
  have hdecimal : '\n' ∉ length.repr.toList :=
    Text.not_mem_of_read? (Numeral.read?_repr length) (by decide)
  rw [Nat.toList_repr] at hdecimal
  simp [headerWords, hdecimal, newline_not_mem_lower]

theorem whole_headerWords (length : Nat) :
    Text.Whole (" ".intercalate (headerWords length)).toList := by
  constructor
  · simp [headerWords]
  · intro member
    rcases Text.mem_clause member with hblank | ⟨w, hw, hc⟩
    · exact absurd hblank (by decide)
    · exact newline_not_mem_headerWords length w hw hc

theorem lengths?_headerWords (length : Nat) :
    lengths? (" ".intercalate (headerWords length)).toList = some (length, length) := by
  rw [lengths?, Text.words_intercalate (plain_headerWords length), headerWords]
  simp only [unbracketed_append, Numeral.ofWord?_repr, Numeral.ofWord?_lower]
  rfl

/-- What an annotated dump reports. -/
theorem report?_annotated {bytes : List UInt8} (fits : bytes.length ≤ 65536) :
    report? (annotated bytes) = some ((bytes.length, bytes.length), rows bytes) := by
  have hrows : ((lines 0 bytes).map String.toList).mapM row? = some (rows bytes) := by
    rw [mapM_row?_lines 0 bytes (by omega)]
    simp only [Nat.zero_add, rows]
  have hbody : ("\n".intercalate (lines 0 bytes)).toList =
      ['\n'].intercalate ((lines 0 bytes).map String.toList) :=
    String.toList_intercalate
  have hlines : Text.lines (annotated bytes).toList =
      (" ".intercalate (headerWords bytes.length)).toList :: (lines 0 bytes).map String.toList := by
    rw [annotated, String.toList_append, toList_header, List.append_assoc, List.singleton_append,
      Text.lines_cons (whole_headerWords _), hbody,
      Text.lines_intercalate (List.forall_mem_map.mpr (whole_of_mem_lines 0 bytes))]
  rw [report?, hlines]
  simp only [lengths?_headerWords, hrows]
  rfl

end Dump

namespace Memory

variable {m : Memory} {program : List UInt8}

/-- The pairs of a dump stand for the bytes of the program. -/
theorem pairs?_hexDump (m : Memory) : Dump.pairs? m.hexDump.toList = some m.romBytes := by
  rw [hexDump, ← List.append_nil (Dump.pairs m.romBytes).toList, Dump.pairs?_pairs]
  exact congrArg some (List.append_nil m.romBytes)

/-- An annotated dump tells the length of the program and shows its bytes in rows. -/
theorem report?_annotatedDump (fits : m.romLength ≤ maxRomSize) :
    Dump.report? m.annotatedDump = some ((m.romLength, m.romLength), Dump.rows m.romBytes) := by
  have hmax : maxRomSize = 3584 := rfl
  have hlength := length_romBytes fits
  rw [annotatedDump, Dump.report?_annotated (by omega), hlength]

theorem Loaded.romLength_le (loaded : Loaded program m) : m.romLength ≤ maxRomSize :=
  (Obtained.loaded loaded).romLength_le

theorem Loaded.romBytes (loaded : Loaded program m) : m.romBytes = program := by
  rcases loaded.justLoaded with ⟨hloaded, -, hfits⟩
  have hprogram : m.Holds 0x200 (program ++ .replicate 0 0) := hloaded.holds (by omega)
  rw [List.replicate_zero, List.append_nil] at hprogram
  have hfits' : m.romLength ≤ maxRomSize := hloaded.romLength ▸ hfits
  exact (holds_romBytes hfits').unique hprogram (by rw [length_romBytes hfits', hloaded.romLength])

end Memory

/-- The pairs of a dump are the bytes that stand in memory from `0x200` on, as many as
    the program has. An annotated dump tells their number and shows the same bytes,
    sixteen to a line, at offsets that count from zero. Two programs that have a dump
    in common right after they were loaded are therefore the same. The pairs are read
    from where `Dump` assumes them to be: with one blank between two of them or two, and
    in an annotated dump in the columns before the filler of a last line that is short
    and before the characters. -/
theorem dumps_lose_nothing {m : Memory} (obtained : m.Obtained) :
    (∃ bytes, bytes.length = m.romLength ∧ m.Holds 0x200 bytes ∧
      Dump.pairs? m.hexDump.toList = some bytes ∧
      ∃ rows, Dump.report? m.annotatedDump = some ((m.romLength, m.romLength), rows) ∧
        rows.flatMap Prod.snd = bytes ∧
        rows = (List.range ((m.romLength + 15) / 16)).map fun k =>
          (16 * k, (bytes.drop (16 * k)).take 16)) ∧
    ∀ (first second : List UInt8) (one other : Memory), one.Loaded first → other.Loaded second →
      one.hexDump = other.hexDump ∨ one.annotatedDump = other.annotatedDump → first = second := by
  have hfits := obtained.romLength_le
  have hlength := Memory.length_romBytes hfits
  have hrows : Dump.rows m.romBytes = (List.range ((m.romLength + 15) / 16)).map fun k =>
      (16 * k, (m.romBytes.drop (16 * k)).take 16) := by
    rw [Dump.rows, hlength]
    rfl
  refine ⟨⟨m.romBytes, hlength, Memory.holds_romBytes hfits, m.pairs?_hexDump, _,
    Memory.report?_annotatedDump hfits, Dump.flatMap_rows _, hrows⟩, ?_⟩
  intro first second one other hfirst hsecond same
  rw [← hfirst.romBytes, ← hsecond.romBytes]
  rcases same with hhex | hannotated
  · have hread := one.pairs?_hexDump
    rw [hhex, other.pairs?_hexDump] at hread
    exact (Option.some.inj hread).symm
  · have hread := Memory.report?_annotatedDump hfirst.romLength_le
    rw [hannotated, Memory.report?_annotatedDump hsecond.romLength_le] at hread
    have hsame := congrArg (fun report => report.2.flatMap Prod.snd) (Option.some.inj hread)
    rw [Dump.flatMap_rows, Dump.flatMap_rows] at hsame
    exact hsame.symm

namespace Dump

/-- A program of eighteen bytes that writes over its last two. Some of its bytes are
    shown as characters that might be taken for digits. -/
def erasing : List UInt8 :=
  [0xA2, 0x10, 0xF1, 0x55, 0x34, 0x31, 0x20, 0x34, 0x32, 0x20, 0x61, 0x62, 0x3A, 0x20, 0x0A, 0x7F,
    0xAB, 0xCD]

/-- What the program has become when it has written. -/
def erased : List UInt8 :=
  erasing.take 16 ++ [0, 0]

/-- A console on which the program has written. -/
def afterErasing : Console :=
  (Console.new {} 0).replay [.load erasing, .step, .step]

end Dump

open Dump in
/-- The dumps show what the program has become, a line of sixteen bytes and one of two. -/
theorem dumps_lose_nothing_when_overwritten :
    afterErasing.machine.memory.Obtained ∧ afterErasing.machine.memory.romLength = 18 ∧
      afterErasing.machine.memory.Holds 0x200 erased ∧
      pairs? afterErasing.machine.memory.hexDump.toList = some erased ∧
      report? afterErasing.machine.memory.annotatedDump =
        some ((18, 18), [(0, erasing.take 16), (16, [0, 0])]) := by
  have obtained : afterErasing.machine.memory.Obtained :=
    .console ((Console.Reachable.new _ _).replay _)
  have hlength : afterErasing.machine.memory.romLength = 18 := by decide +kernel
  have herased : afterErasing.machine.memory.romBytes = erased := by decide +kernel
  rcases dumps_lose_nothing obtained with ⟨⟨bytes, -, hholds, hhex, rows, hreport, -, hrows⟩, -⟩
  have hbytes : bytes = erased := by
    rw [Memory.pairs?_hexDump, herased] at hhex
    exact (Option.some.inj hhex).symm
  rw [hbytes] at hholds hhex hrows
  rw [hlength] at hreport hrows
  rw [hrows] at hreport
  exact ⟨obtained, hlength, hholds, hhex, hreport⟩

end ChipEight
