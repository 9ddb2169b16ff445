import ChipEight.Proofs.Console.Events
import ChipEight.Proofs.Memory.Blocks

/-!
# Loading Programs

What a console is right after a program was loaded, and when it is not loaded.

Loading replaces everything a program can see. Of memory this is known byte by
byte: the program, the font and zeros (`Memory.imageByte`). Both blocks are
written with addresses that could wrap, and the program is written over the
memory that holds the font already. That neither happens is a matter of the two
starting addresses and of the bound on the length of a program, and
`Memory.ram_ofRom` is where the bound is used up.

Bytes that are refused change nothing. Loading is a row of statements, each of
which changes what it is about for good, so this depends on their order: the
one that can fail comes first. `Memory.loadInto` and `Console.loadInPlace` keep
whatever was stored when a failure ends them, and hence could tell.

All ways to load a program end at the same check. `Rom.verdict` says what it
decides by the length of the bytes alone.

## Main definitions

* `Memory.imageByte`, `Memory.JustLoaded`: Memory that holds the font and a
  program and has not been used.
* `Display.Empty`: A display with nothing on it, in the modes of some settings.
* `Rom.verdict`, `Rom.Judged`: What becomes of bytes that are to be loaded, and
  what it means for every way to load them.
* `Lasting`, `Console.lasting`: What a console keeps when a program is loaded.

## Theorems

* `Memory.ram_ofRom`: Every byte of memory that holds a program.
* `Memory.loadInto_run`, `Console.loadInPlace_run`: What loading comes to.
* `program_starts_clean`: A program starts from the same memory and the same
  display whatever was there before.
* `refused_program_changes_nothing`: Which bytes are refused, and that nothing
  comes of it.
-/

namespace ChipEight

/-! ### Memory with a program -/

namespace Memory

/-- The byte at a place of memory that holds a program and the font. -/
def imageByte (program : List UInt8) (place : Nat) : UInt8 :=
  if 0x200 ≤ place ∧ place < 0x200 + program.length then program.getD (place - 0x200) 0
  else if 0x50 ≤ place ∧ place < 0xA0 then font.getD (place - 0x50) 0
  else 0

/-- Memory that holds the font and a program of the given bytes, none of which
    has been executed. -/
structure JustLoaded (m : Memory) (program : List UInt8) : Prop where
  ram : ∀ place : Fin 4096, m.ram.get place = imageByte program place
  romLength : m.romLength = program.length
  counter : m.counter = 0x200
  registers : ∀ x, m.reg x = 0
  index : m.index = 0
  delay : m.delay = 0
  sound : m.sound = 0
  stack : m.stack = []

theorem ram_blank (place : Fin 4096) :
    blank.ram.get place =
      if 0x50 ≤ place.val ∧ place.val < 0xA0 then font.getD (place.val - 0x50) 0 else 0 := by
  have hzero : ({} : Memory).ram.get place = 0 := Vector.getElem_replicate ..
  rw [blank, ram_writeBlock {} fontAddress (by decide) place, hzero]
  rfl

/-- The program is written over the font and zeros, and ends within memory. -/
theorem ram_ofRom (rom : Rom) (place : Fin 4096) :
    (ofRom rom).ram.get place = imageByte rom.bytes place := by
  have hfits : programStart.toNat + rom.bytes.length ≤ 4096 := by
    have hstart : programStart.toNat = 0x200 := rfl
    have hlength : rom.bytes.length ≤ 3584 := rom.fits
    omega
  rw [imageByte, ← ram_blank]
  exact ram_writeBlock blank programStart hfits place

/-- Apart from its bytes, memory with a program is memory as it comes. -/
theorem ofRom_eq (rom : Rom) :
    ofRom rom = { ram := (ofRom rom).ram, romLength := rom.bytes.length } := by
  unfold ofRom blank
  -- The program is written into the memory that the font was written into, so its
  -- block is taken apart first.
  rw [writeBlock_eq (writeBlock {} fontAddress font), writeBlock_eq {} fontAddress]

theorem justLoaded_ofRom (rom : Rom) : (ofRom rom).JustLoaded rom.bytes := by
  have hram := ram_ofRom rom
  rw [ofRom_eq] at hram ⊢
  have hregisters : ∀ x : Register, (Vector.replicate 16 (0 : UInt8))[x] = 0 := fun x =>
    Vector.getElem_replicate ..
  exact ⟨hram, rfl, rfl, hregisters, rfl, rfl, rfl, rfl⟩

theorem loadInto_run (bytes : List UInt8) (m : Memory) :
    (loadInto bytes).run.run m =
      match Rom.ofBytes bytes with
      | .ok rom => (.ok (), ofRom rom)
      | .error reason => (.error reason, m) := by
  unfold loadInto load
  cases Rom.ofBytes bytes with
  | ok rom => rfl
  | error reason => rfl

end Memory

/-! ### Bytes that are refused -/

theorem LoadError.message_tooLarge (size : Nat) :
    (tooLarge size 3584).message =
      s!"ROM is too large ({size} bytes), max size is 3584 bytes" := by
  have hmax : toString 3584 = "3584" := by decide +kernel
  have hending : " bytes), max size is " ++ ("3584" ++ " bytes") =
      " bytes), max size is 3584 bytes" := by
    decide +kernel
  calc (tooLarge size 3584).message
    _ = "ROM is too large (" ++ toString size ++ " bytes), max size is " ++ toString 3584 ++
        " bytes" := rfl
    _ = "ROM is too large (" ++ toString size ++ " bytes), max size is 3584 bytes" := by
      rw [hmax, ← hending]
      simp only [String.append_assoc]

namespace Rom

/-- What becomes of bytes that are to be loaded. -/
def verdict (bytes : List UInt8) : Except LoadError Unit :=
  if bytes.length = 0 then .error .empty
  else if bytes.length ≤ 3584 then .ok ()
  else .error (.tooLarge bytes.length 3584)

theorem verdict_eq_ok_iff {bytes : List UInt8} :
    verdict bytes = .ok () ↔ 1 ≤ bytes.length ∧ bytes.length ≤ 3584 := by
  unfold verdict
  by_cases empty : bytes.length = 0
  · simp [empty]
  · by_cases fits : bytes.length ≤ 3584
    · simp only [if_neg empty, if_pos fits, true_iff]
      omega
    · simp [empty, fits]

theorem verdict_eq_error_iff {bytes : List UInt8} {reason : LoadError} :
    verdict bytes = .error reason ↔
      bytes.length = 0 ∧ reason = .empty ∨
        3584 < bytes.length ∧ reason = .tooLarge bytes.length 3584 := by
  unfold verdict
  by_cases empty : bytes.length = 0
  · simp [empty, eq_comm]
  · by_cases fits : bytes.length ≤ 3584
    · simp [empty, fits, Nat.not_lt.mpr fits]
    · simp [empty, fits, Nat.lt_of_not_le fits, eq_comm]

/-- There is a program of the bytes and the verdict accepts them, or they are
    refused for the reason in the verdict. -/
theorem ofBytes_cases (bytes : List UInt8) :
    (∃ rom, ofBytes bytes = .ok rom ∧ rom.bytes = bytes ∧ verdict bytes = .ok ()) ∨
      ∃ reason, ofBytes bytes = .error reason ∧ verdict bytes = .error reason := by
  unfold ofBytes verdict
  by_cases empty : bytes = []
  · exact .inr ⟨.empty, dif_pos empty, if_pos (List.length_eq_zero_iff.mpr empty)⟩
  · have hsome : ¬ bytes.length = 0 := fun h => empty (List.length_eq_zero_iff.mp h)
    rw [dif_neg empty, if_neg hsome]
    by_cases fits : bytes.length ≤ maxRomSize
    · exact .inl ⟨⟨bytes, empty, fits⟩, dif_pos fits, rfl, if_pos fits⟩
    · exact .inr ⟨.tooLarge bytes.length 3584, dif_neg fits, if_neg fits⟩

end Rom

/-! ### Consoles with a program -/

/-- What a console keeps when a program is loaded. -/
structure Lasting where
  settings : Settings
  keypad : Keypad
  generator : Generator
  dialect : Dialect
  deriving DecidableEq

namespace Display

/-- A display with nothing on it, in the modes that the settings ask for. -/
structure Empty (d : Display) (s : Settings) : Prop where
  pixels : ∀ p x y, d.pixel p x y = false
  fade : ∀ x y, d.fade.get x y = .zero
  lastSprite : ∀ row column, d.lastSprite.lit row column = false
  resolution : d.resolution = s.resolution
  selection : d.selection = s.selection
  fading : d.fading = s.fading

theorem empty_display (s : Settings) : s.display.Empty s where
  pixels p x y := by
    cases p with
    | a => exact Grid.get_fill false x y
    | b => exact Grid.get_fill false x y
  fade x y := Grid.get_fill Single.zero x y
  lastSprite row column := by
    have hbyte : (Vector.replicate 16 (0 : UInt8)).toList.getD row 0 = 0 := by
      simp only [Vector.toList_replicate, List.getD_eq_getElem?_getD, List.getElem?_replicate]
      split <;> rfl
    have hbit : spriteBit 0 column = false := Nat.zero_testBit _
    rw [Snapshot.lit, Settings.display, hbyte, hbit, Bool.and_false]
  resolution := rfl
  selection := rfl
  fading := rfl

end Display

namespace Console

/-- The part of a console that outlasts its programs. -/
def lasting (c : Console) : Lasting :=
  ⟨c.settings, c.machine.keypad, c.machine.generator, c.machine.dialect⟩

theorem settings_eq_of_lasting {c d : Console} (alike : c.lasting = d.lasting) :
    c.settings = d.settings :=
  congrArg Lasting.settings alike

theorem loadInPlace_run (bytes : List UInt8) (c : Console) :
    (loadInPlace bytes).run.run c =
      match Rom.ofBytes bytes with
      | .ok rom => (.ok (), c.insert rom)
      | .error reason => (.error reason, c) := by
  unfold loadInPlace Memory.load
  cases Rom.ofBytes bytes with
  | ok rom => rfl
  | error reason => rfl

/-- A console with a program is made of the program and of what lasts. -/
theorem insert_congr {c d : Console} (alike : c.lasting = d.lasting) (rom : Rom) :
    c.insert rom = d.insert rom :=
  congrArg (fun l : Lasting => Console.mk l.settings
    { memory := .ofRom rom
      display := l.settings.display
      keypad := l.keypad
      generator := l.generator
      dialect := l.dialect }) alike

end Console

namespace Rom

/-- Every way to load bytes comes to a verdict, and leaves everything as it was if
    that is to refuse them. -/
structure Judged (bytes : List UInt8) (verdict : Except LoadError Unit) : Prop where
  memory : (Memory.load bytes).map (fun _ => ()) = verdict
  file : (ofFile (.ok bytes)).map Rom.bytes = verdict.map fun _ => bytes
  intoMemory : ∀ m, ((Memory.loadInto bytes).run.run m).1 = verdict
  intoConsole : ∀ c, ((Console.loadInPlace bytes).run.run c).1 = verdict
  memoryKept : ∀ reason, verdict = .error reason →
    ∀ m, ((Memory.loadInto bytes).run.run m).2 = m
  consoleKept : ∀ reason, verdict = .error reason →
    ∀ c, ((Console.loadInPlace bytes).run.run c).2 = c

theorem judged_verdict (bytes : List UInt8) : Judged bytes (verdict bytes) := by
  rcases ofBytes_cases bytes with ⟨rom, hrom, hbytes, haccepted⟩ | ⟨reason, hreason, hrefused⟩
  · -- Accepted, so that there is nothing to say of what is left as it was.
    rw [haccepted]
    refine ⟨?_, ?_, ?_, ?_, ?_, ?_⟩
    · rw [Memory.load, hrom]
      rfl
    · rw [ofFile, hrom, Except.map, hbytes]
      rfl
    · intro m
      rw [Memory.loadInto_run, hrom]
    · intro c
      rw [Console.loadInPlace_run, hrom]
    · intro reason refused
      cases refused
    · intro reason refused
      cases refused
  · -- Refused before anything was stored, by whichever way.
    rw [hrefused]
    refine ⟨?_, ?_, ?_, ?_, ?_, ?_⟩
    · rw [Memory.load, hreason]
      rfl
    · rw [ofFile, hreason]
      rfl
    · intro m
      rw [Memory.loadInto_run, hreason]
    · intro c
      rw [Console.loadInPlace_run, hreason]
    · intro _ _ m
      rw [Memory.loadInto_run, hreason]
    · intro _ _ c
      rw [Console.loadInPlace_run, hreason]

end Rom

/-- A program starts clean. Whatever memory held, loading bytes that are few
    enough leaves the same memory behind, in which there is nothing but the
    program and the font. Two consoles that agree in what lasts become the same
    console, with this memory, with an empty display in the modes that the
    settings ask for now, and with everything that lasts as it was. -/
theorem program_starts_clean {bytes : List UInt8} (nonempty : 1 ≤ bytes.length)
    (fits : bytes.length ≤ 3584) :
    ∃ m : Memory, Memory.load bytes = .ok m ∧ m.JustLoaded bytes ∧
      (∀ old, (Memory.loadInto bytes).run.run old = (.ok (), m)) ∧
      (∀ c d : Console, c.lasting = d.lasting →
        ∃ e, (Console.loadInPlace bytes).run.run c = (.ok (), e) ∧
          (Console.loadInPlace bytes).run.run d = (.ok (), e) ∧
          e.machine.memory = m ∧ e.machine.display.Empty c.settings ∧ e.lasting = c.lasting) ∧
      ∀ (c : Console) fading, ∃ e,
        (Console.loadInPlace bytes).run.run (c.setFading fading) = (.ok (), e) ∧
          e.machine.display.Empty { c.settings with fading := fading } := by
  have haccepted := Rom.verdict_eq_ok_iff.mpr ⟨nonempty, fits⟩
  rcases Rom.ofBytes_cases bytes with ⟨rom, hrom, hbytes, -⟩ | ⟨reason, -, hrefused⟩
  · have hloaded : (Memory.ofRom rom).JustLoaded bytes := hbytes ▸ Memory.justLoaded_ofRom rom
    -- Memory of the program itself is what all ways to load it end with.
    refine ⟨.ofRom rom, ?_, hloaded, ?_, ?_, ?_⟩
    · rw [Memory.load, hrom]
      rfl
    · intro old
      rw [Memory.loadInto_run, hrom]
    · -- The first console's new state serves for both, as they agree in what lasts.
      intro c d alike
      refine ⟨c.insert rom, ?_, ?_, rfl, Display.empty_display _, rfl⟩
      · rw [Console.loadInPlace_run, hrom]
      · rw [Console.loadInPlace_run, hrom, Console.insert_congr alike]
    · intro c fading
      refine ⟨(c.setFading fading).insert rom, ?_, Display.empty_display _⟩
      rw [Console.loadInPlace_run, hrom]
  · -- Bytes of this length are not refused.
    rw [haccepted] at hrefused
    cases hrefused

/-- A console whose program draws on both planes of the extended screen and calls
    a subroutine, after these six instructions and with other fading settings. -/
def Console.usedUp : Console :=
  (Console.new {} 3).replay
    (.load [0x00, 0xFF, 0xF3, 0x01, 0xA0, 0x50, 0xD0, 0x05, 0x61, 0x33, 0x23, 0x00] ::
      .setFading { enabled := false } :: .replicate 6 .step)

/-- A console that has not been used, with the same fading settings. -/
def Console.unused : Console :=
  (Console.new {} 3).setFading { enabled := false }

/-- A program of one instruction, which erases. -/
def eraseOnly : List UInt8 :=
  [0x00, 0xE0]

open Console in
/-- A program that is loaded into both finds nothing of the first one's past. -/
theorem program_starts_clean_after_use :
    1 ≤ eraseOnly.length ∧ eraseOnly.length ≤ 3584 ∧
      usedUp.lasting = unused.lasting ∧ usedUp.machine.memory.stack ≠ unused.machine.memory.stack ∧
      usedUp.machine.display.pixel .b 2 0 ≠ unused.machine.display.pixel .b 2 0 ∧
      ∃ e, (loadInPlace eraseOnly).run.run usedUp = (.ok (), e) ∧
        (loadInPlace eraseOnly).run.run unused = (.ok (), e) ∧
        e.machine.memory.JustLoaded eraseOnly ∧ e.machine.display.Empty unused.settings := by
  have nonempty : 1 ≤ eraseOnly.length := by decide
  have fits : eraseOnly.length ≤ 3584 := by decide
  have alike : usedUp.lasting = unused.lasting := by decide +kernel
  rcases program_starts_clean nonempty fits with ⟨m, -, hloaded, -, hconsoles, -⟩
  rcases hconsoles usedUp unused alike with ⟨e, hused, hunused, rfl, hempty, -⟩
  refine ⟨nonempty, fits, alike, ?_, ?_, e, hused, hunused, hloaded, ?_⟩
  · decide +kernel
  · decide +kernel
  · rwa [← settings_eq_of_lasting alike]

/-- Every way to load bytes comes to the verdict on them, which depends on their
    number alone, and leaves everything as it was if that is to refuse them.
    Bytes that are too many are refused with their number and the most there can
    be. What was read from a file has passed the same check, so that no console
    refuses it. -/
theorem refused_program_changes_nothing (bytes : List UInt8) :
    Rom.Judged bytes (Rom.verdict bytes) ∧
      (Rom.verdict bytes = .ok () ↔ 1 ≤ bytes.length ∧ bytes.length ≤ 3584) ∧
      (∀ reason, Rom.verdict bytes = .error reason ↔
        bytes.length = 0 ∧ reason = .empty ∨
          3584 < bytes.length ∧ reason = .tooLarge bytes.length 3584) ∧
      (LoadError.tooLarge bytes.length 3584).message =
        s!"ROM is too large ({bytes.length} bytes), max size is 3584 bytes" ∧
      ∀ contents rom, Rom.ofFile contents = .ok rom →
        ∀ c, ((Console.loadInPlace rom.bytes).run.run c).1 = .ok () := by
  refine ⟨Rom.judged_verdict bytes, Rom.verdict_eq_ok_iff, fun _ => Rom.verdict_eq_error_iff,
    LoadError.message_tooLarge _, ?_⟩
  intro contents rom _ c
  -- A program carries the bounds of its length, which is all that is checked.
  have hlength : 1 ≤ rom.bytes.length := List.length_pos_iff.mpr rom.nonempty
  have haccepted := Rom.verdict_eq_ok_iff.mpr ⟨hlength, rom.fits⟩
  rw [(Rom.judged_verdict rom.bytes).intoConsole, haccepted]

open Console in
/-- One byte too many leaves a console in use as it is. -/
theorem refused_program_changes_nothing_when_too_large :
    Rom.verdict (.replicate 3585 0xAB) = .error (.tooLarge 3585 3584) ∧
      ((loadInPlace (.replicate 3585 0xAB)).run.run usedUp).1 = .error (.tooLarge 3585 3584) ∧
      ((loadInPlace (.replicate 3585 0xAB)).run.run usedUp).2 = usedUp ∧
      Rom.ofFile (.ok eraseOnly) = .ok ⟨eraseOnly, by decide, by decide⟩ ∧
      ((loadInPlace eraseOnly).run.run usedUp).1 = .ok () := by
  have hrefused : Rom.verdict (.replicate 3585 0xAB) = .error (.tooLarge 3585 3584) := by
    rw [Rom.verdict, List.length_replicate]
    rfl
  have hfile : Rom.ofFile (.ok eraseOnly) = .ok ⟨eraseOnly, by decide, by decide⟩ := rfl
  rcases refused_program_changes_nothing (.replicate 3585 0xAB) with ⟨judged, -, -, -, hloads⟩
  have hresult := judged.intoConsole usedUp
  rw [hrefused] at hresult
  have hkept := judged.consoleKept _ hrefused usedUp
  exact ⟨hrefused, hresult, hkept, hfile, hloads _ _ hfile usedUp⟩

end ChipEight
