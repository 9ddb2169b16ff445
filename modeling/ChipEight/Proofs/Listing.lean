import ChipEight.Proofs.ControlFlow
import ChipEight.Proofs.Memory.Programs
import ChipEight.Proofs.Text.Lines
import ChipEight.Proofs.Text.Numerals
import Mathlib.Data.List.Basic

/-!
# What a Listing Shows

A listing shows every byte of the program loaded, in order, and at most one byte
more.

A line begins with an address and the word found there, in columns of their own.
Taking the words apart into bytes and joining these gives the stretch of memory that
the listing goes over. For a program with an odd number of bytes it is one byte
longer than the program, and since the room for programs is even there is such a byte
also behind the longest of them. That is also why no address of a listing wraps.

What the lines are made from is collected word by word, at addresses that are
wrapped, while `Memory.Holds` speaks of places that are not. The two meet in
`Memory.readBlock`, which two bytes for every word add up to wherever they are.

## Main definitions

* `Listing.row?`: The address and the word in the first columns of a line.
* `Listing.bytes`: The bytes of all words that lines show.

## Theorems

* `Console.row?_listingLine`: A line shows what it was made for.
* `Memory.flatMap_wordBytes`: Words in a row are a block of memory.
* `Console.bytes_listing`: So are the words of a listing.
* `listing_covers_program`: What the lines of a listing show, and that a program just
  loaded is got back from them.
-/

namespace ChipEight

namespace Listing

/-- What a line shows in its first two columns: an address and a word. -/
def row? (line : List Char) : Option (Nat × Nat) := do
  let address ← Numeral.read? 16 (Text.columns 0 3 line)
  let word ← Numeral.read? 16 (Text.columns 5 4 line)
  return (address, word)

/-- The two bytes of a word, the more significant one first. -/
def wordBytes (w : Nat) : List UInt8 :=
  [UInt8.ofNat (w / 256), UInt8.ofNat (w % 256)]

/-- The bytes of a line, none if it does not show a word. -/
def lineBytes (line : String) : List UInt8 :=
  ((row? line.toList).map fun row => wordBytes row.2).getD []

/-- The bytes of all words that lines show. -/
def bytes (lines : List String) : List UInt8 :=
  lines.flatMap lineBytes

end Listing

/-! ### Words -/

namespace Memory

variable (m : Memory)

theorem wordBytes_wordAt (a : Address) :
    Listing.wordBytes (m.wordAt a).toNat = [m.read a, m.read (a + 1)] := by
  have hlow := (m.read (a + 1)).toNat_lt
  have hquotient : ((m.read a).toNat * 256 + (m.read (a + 1)).toNat) / 256 = (m.read a).toNat := by
    omega
  have hremainder :
      ((m.read a).toNat * 256 + (m.read (a + 1)).toNat) % 256 = (m.read (a + 1)).toNat := by
    omega
  rw [Listing.wordBytes, wordAt, Word.toNat_ofBytes, hquotient, hremainder, UInt8.ofNat_toNat,
    UInt8.ofNat_toNat]

/-- The address of a word counted from the place that programs are loaded to. -/
def wordAddress (k : Nat) : Address :=
  wrapAddress (programStart + UInt16.ofNat (2 * k))

theorem toNat_wordAddress {k : Nat} (inside : 2 * k < 3584) :
    (wordAddress k).toNat = 0x200 + 2 * k := by
  have hstart : programStart.toNat = 0x200 := rfl
  rw [wordAddress, toNat_wrapAddress, UInt16.toNat_add, UInt16.toNat_ofNat', hstart]
  omega

/-- Words in a row are a block of memory, wherever its addresses wrap. -/
theorem flatMap_wordBytes (count : Nat) :
    ((List.range count).flatMap fun k => Listing.wordBytes (m.wordAt (wordAddress k)).toNat) =
      m.readBlock programStart (2 * count) := by
  induction count with
  | zero => rfl
  | succ count ih =>
      have hhigh : m.read (wordAddress count) =
          m.read (programStart + UInt16.ofNat (2 * count)) :=
        m.read_congr (wrapAddress_wrapAddress _)
      have hlow : m.read (wordAddress count + 1) =
          m.read (programStart + UInt16.ofNat (2 * count + 1)) := by
        rw [UInt16.ofNat_add, ← UInt16.add_assoc]
        exact m.read_congr (wrapAddress_add_congr (wrapAddress_wrapAddress _) 1)
      rw [List.range_succ, List.flatMap_append, ih, List.flatMap_singleton, wordBytes_wordAt, hhigh,
        hlow, Nat.mul_succ, readBlock_succ, readBlock_succ, List.append_assoc,
        List.singleton_append]

end Memory

/-! ### Lines -/

namespace Console

variable (c : Console)

/-- A line shows what it was made for, as long as the address fits its column. -/
theorem row?_listingLine {a : Address} (inside : a.toNat < 4096) (dialect : Dialect) (w : Word) :
    Listing.row? (listingLine a (.ofWord dialect w)).toList = some (a.toNat, w.toNat) := by
  have haddress : (Hex.upper 3 a.toNat).toList.length = 3 :=
    Numeral.length_upper ((Nat.length_toDigits_le_iff (by decide) (by decide)).mpr inside)
  have hword : (Hex.upper 4 w.toNat).toList.length = 4 :=
    Numeral.length_upper ((Nat.length_toDigits_le_iff (by decide) (by decide)).mpr w.toNat_lt)
  -- The line is an address, two blanks, a word and what comes after it.
  let rest := "  " ++ (Instruction.column 18 ((Instruction.decode w).mnemonic dialect) ++
    (" ; " ++ (Instruction.decode w).summary dialect))
  have htrace : (Decoded.ofWord dialect w).trace = Hex.upper 4 w.toNat ++ rest := by
    simp only [Decoded.ofWord, Instruction.describe, String.append_assoc, rest]
  have hline : (listingLine a (.ofWord dialect w)).toList =
      (Hex.upper 3 a.toNat).toList ++ ([' ', ' '] ++
        ((Hex.upper 4 w.toNat).toList ++ rest.toList)) := by
    rw [listingLine, htrace, String.append_assoc, String.toList_append, String.toList_append,
      String.toList_append]
    rfl
  have hfirst : Text.columns 0 3 (listingLine a (.ofWord dialect w)).toList =
      (Hex.upper 3 a.toNat).toList := by
    rw [hline]
    exact Text.columns_append List.length_nil haddress _
  have hsecond : Text.columns 5 4 (listingLine a (.ofWord dialect w)).toList =
      (Hex.upper 4 w.toNat).toList := by
    rw [hline, ← List.append_assoc]
    exact Text.columns_append (by rw [List.length_append, haddress]; rfl) hword _
  rw [Listing.row?, hfirst, hsecond, Numeral.read?_upper, Numeral.read?_upper]
  rfl

theorem listing_eq :
    c.listing = (List.range ((c.machine.memory.romLength + 1) / 2)).map fun k =>
      listingLine (Memory.wordAddress k)
        (.ofWord c.machine.dialect (c.machine.memory.wordAt (Memory.wordAddress k))) := by
  rw [listing, disassemble, Memory.wordsFrom, List.map_map, List.map_map]
  rfl

theorem length_listing : c.listing.length = (c.machine.memory.romLength + 1) / 2 := by
  rw [listing_eq, List.length_map, List.length_range]

variable {c}

theorem row?_of_word (fits : c.machine.memory.romLength ≤ maxRomSize) {k : Nat}
    (listed : k < (c.machine.memory.romLength + 1) / 2) :
    Listing.row? (listingLine (Memory.wordAddress k)
      (.ofWord c.machine.dialect (c.machine.memory.wordAt (Memory.wordAddress k)))).toList =
      some (0x200 + 2 * k, (c.machine.memory.wordAt (Memory.wordAddress k)).toNat) := by
  have hmax : maxRomSize = 3584 := rfl
  have haddress := Memory.toNat_wordAddress (k := k) (by omega)
  rw [row?_listingLine (by omega), haddress]

/-- The words of a listing are a block of memory. -/
theorem bytes_listing (fits : c.machine.memory.romLength ≤ maxRomSize) :
    Listing.bytes c.listing =
      c.machine.memory.readBlock programStart (2 * ((c.machine.memory.romLength + 1) / 2)) := by
  rw [Listing.bytes, listing_eq, List.flatMap_map, ← Memory.flatMap_wordBytes]
  refine List.flatMap_congr fun k listed => ?_
  rw [Listing.lineBytes, row?_of_word fits (List.mem_range.mp listed)]
  rfl

/-- The stretch of memory that a listing goes over ends within memory. -/
theorem holds_listing (fits : c.machine.memory.romLength ≤ maxRomSize) :
    (Listing.bytes c.listing).length =
        c.machine.memory.romLength + c.machine.memory.romLength % 2 ∧
      c.machine.memory.Holds 0x200 (Listing.bytes c.listing) := by
  have hmax : maxRomSize = 3584 := rfl
  have hstart : programStart.toNat = 0x200 := rfl
  rw [bytes_listing fits, Memory.length_readBlock]
  exact ⟨by omega, Memory.holds_readBlock (a := programStart) (by omega)⟩

/-- A listing made right after loading shows the program, and a zero if it is odd. -/
theorem bytes_listing_of_justLoaded {program : List UInt8}
    (loaded : c.machine.memory.JustLoaded program) (fits : program.length ≤ maxRomSize) :
    Listing.bytes c.listing = program ++ .replicate (program.length % 2) 0 := by
  have hmax : maxRomSize = 3584 := rfl
  have hprogram : c.machine.memory.Holds 0x200 (program ++ .replicate (program.length % 2) 0) :=
    loaded.holds (by omega)
  rcases holds_listing (loaded.romLength ▸ fits) with ⟨hlength, hlisting⟩
  refine hlisting.unique hprogram ?_
  rw [hlength, loaded.romLength, List.length_append, List.length_replicate]

end Console

/-- A listing has a line for every two bytes of the program loaded, and one for a last
    odd byte. Each shows its address, which does not wrap, and the words are those of
    memory from `0x200` on, to the end of the program or one byte beyond, which is in
    memory. A program just loaded is therefore what its listing begins with, and if
    it is odd the byte after it is zero. -/
theorem listing_covers_program {c : Console} (reached : c.Reachable) :
    let length := c.machine.memory.romLength
    (c.listing.length = (length + 1) / 2 ∧
      (∀ k line, c.listing[k]? = some line →
        0x200 + 2 * k < 4096 ∧ ∃ w, Listing.row? line.toList = some (0x200 + 2 * k, w)) ∧
      (Listing.bytes c.listing).length = length + length % 2 ∧
      c.machine.memory.Holds 0x200 (Listing.bytes c.listing)) ∧
    ∀ (d : Console) (program : List UInt8), 1 ≤ program.length → program.length ≤ 3584 →
      ∃ e, (Console.loadInPlace program).run.run d = (.ok (), e) ∧
        (Listing.bytes e.listing).take e.machine.memory.romLength = program ∧
        Listing.bytes e.listing = program ++ .replicate (program.length % 2) 0 := by
  have hmax : maxRomSize = 3584 := rfl
  have hfits := reached.romLength_le
  refine ⟨⟨c.length_listing, fun k line listed => ?_, Console.holds_listing hfits⟩, ?_⟩
  · have hline : k < (c.machine.memory.romLength + 1) / 2 := by
      rw [← c.length_listing]
      exact (List.getElem?_eq_some_iff.mp listed).1
    rw [Console.listing_eq, List.getElem?_map, List.getElem?_range hline, Option.map_some,
      Option.some.injEq] at listed
    subst listed
    exact ⟨by omega, _, Console.row?_of_word hfits hline⟩
  · intro d program nonempty fits
    -- A program of this length is accepted by every console.
    have haccepted := (Rom.judged_verdict program).intoConsole d
    rw [Rom.verdict_eq_ok_iff.mpr ⟨nonempty, fits⟩] at haccepted
    have hrun : (Console.loadInPlace program).run.run d = (.ok (), _) := Prod.ext haccepted rfl
    have hloaded := (Memory.Loaded.console hrun).justLoaded.1
    have hlisting := Console.bytes_listing_of_justLoaded hloaded fits
    refine ⟨_, hrun, ?_, hlisting⟩
    rw [hlisting, hloaded.romLength, List.take_left]

namespace Console

/-- A console whose program has put zeros in place of its second word. -/
def overwritten : Console :=
  (Console.new {} 0).replay [.load [0xA2, 0x02, 0xF1, 0x55, 0x12], .step, .step]

end Console

open Console in
/-- The listing shows what the program has become, and the zero behind it. -/
theorem listing_covers_program_when_overwritten :
    overwritten.Reachable ∧ overwritten.machine.memory.romLength = 5 ∧
      overwritten.listing.length = 3 ∧
      overwritten.machine.memory.Holds 0x200 (Listing.bytes overwritten.listing) ∧
      Listing.bytes overwritten.listing = [0xA2, 0x02, 0x00, 0x00, 0x12, 0x00] := by
  have reached : overwritten.Reachable := (Reachable.new _ _).replay _
  have hlength : overwritten.machine.memory.romLength = 5 := by decide +kernel
  rcases listing_covers_program reached with ⟨⟨hlines, -, -, hholds⟩, -⟩
  rw [hlength] at hlines
  exact ⟨reached, hlength, hlines, hholds, by decide +kernel⟩

end ChipEight
