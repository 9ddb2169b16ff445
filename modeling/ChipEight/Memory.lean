import ChipEight.Word

/-!
# Memory

Everything a program can see apart from the screen and the keys: sixteen byte
registers, the index register, the program counter, two timers, the stack of
return addresses, and 4096 bytes of memory. Every address is wrapped into
range before it is used, so no access can fail.

## Main definitions

* `Memory`: All of the above, and the length of the program loaded.
* `Memory.read`, `Memory.write`, `Memory.readBlock`, `Memory.writeBlock`:
  Bytes of memory, alone and in a row.
* `Memory.reg`, `Memory.setReg`: Registers.
* `Memory.setCounter`, `Memory.advance`, `Memory.retreat`: Moving the program
  counter.
* `Memory.wordAt`, `Memory.fetch`: Instruction words.
* `Memory.wordsFrom`: A stretch of memory as instruction words.

## Theorems

* `Memory.reg_setReg`: What a register holds after another, or the same, was
  replaced.
* `Memory.read_write`: What an address holds after another, or one that wraps to
  the same byte, was written.
-/

namespace ChipEight

/-- The number of bytes of memory. -/
def memorySize : Nat := 4096

/-- The bits of an address that memory and the program counter look at. -/
def addressMask : Address := 0x0FFF

/-- Where programs are loaded and started; what lies below belongs to the
    interpreter. -/
def programStart : Address := 0x200

/-- The largest program that fits. -/
def maxRomSize : Nat := memorySize - programStart.toNat

/-- An address wrapped into memory. -/
def wrapAddress (a : Address) : Address :=
  a &&& addressMask

theorem toNat_wrapAddress (a : Address) : (wrapAddress a).toNat = a.toNat % 4096 := by
  simpa [wrapAddress, addressMask] using Nat.and_two_pow_sub_one_eq_mod a.toNat 12

/-- The place in memory that an address stands for. -/
def cellOf (a : Address) : Fin 4096 :=
  ⟨(wrapAddress a).toNat, by rw [toNat_wrapAddress]; exact Nat.mod_lt _ (by decide)⟩

/-- What a program can see apart from the screen and the keys. -/
structure Memory where
  /-- The registers V0 to VF. -/
  registers : Vector UInt8 16 := .replicate _ 0
  /-- The index register I. -/
  index : Address := 0
  /-- The program counter. -/
  counter : Address := programStart
  /-- The delay timer. -/
  delay : UInt8 := 0
  /-- The sound timer. -/
  sound : UInt8 := 0
  /-- The return addresses, most recent first, without a limit. -/
  stack : List Address := []
  ram : Vector UInt8 4096 := .replicate _ 0
  /-- The length of the program loaded, zero before any. -/
  romLength : Nat := 0
  deriving DecidableEq, Repr

namespace Memory

/-- What a register holds. -/
def reg (m : Memory) (x : Register) : UInt8 :=
  m.registers[x]

/-- Replaces one register. -/
def setReg (m : Memory) (x : Register) (value : UInt8) : Memory :=
  { m with registers := m.registers.set x value }

theorem reg_setReg (m : Memory) (x y : Register) (value : UInt8) :
    (m.setReg x value).reg y = if x = y then value else m.reg y := by
  simp only [reg, setReg, Fin.getElem_fin, Vector.getElem_set, Fin.val_inj]

/-- What the flag register holds. -/
def flag (m : Memory) : UInt8 :=
  m.reg flagRegister

/-- Replaces the flag register. -/
def setFlag (m : Memory) (value : UInt8) : Memory :=
  m.setReg flagRegister value

/-- The byte at an address. -/
def read (m : Memory) (a : Address) : UInt8 :=
  m.ram[cellOf a]

/-- Replaces the byte at an address. -/
def write (m : Memory) (a : Address) (value : UInt8) : Memory :=
  { m with ram := m.ram.set (cellOf a) value }

theorem read_write (m : Memory) (a b : Address) (value : UInt8) :
    (m.write a value).read b = if cellOf a = cellOf b then value else m.read b := by
  simp only [read, write, Fin.getElem_fin, Vector.getElem_set, Fin.val_inj]

/-- The bytes at an address and after it. Addresses count up in sixteen bits
    and wrap around memory. -/
def readBlock (m : Memory) (a : Address) (count : Nat) : List UInt8 :=
  (List.range count).map fun k => m.read (a + UInt16.ofNat k)

/-- Writes bytes in a row, beginning at an address. -/
def writeBlock (m : Memory) (a : Address) (bytes : List UInt8) : Memory :=
  bytes.zipIdx.foldl (fun m (byte, k) => m.write (a + UInt16.ofNat k) byte) m

/-- The registers V0 to VX. -/
def registersUpTo (m : Memory) (x : Register) : List UInt8 :=
  m.registers.toList.take (x.val + 1)

/-- Replaces registers from V0 on; the ones beyond the bytes given are kept. -/
def setRegisters (m : Memory) (bytes : List UInt8) : Memory :=
  { m with registers := .ofFn fun r => bytes.getD r.val (m.reg r) }

/-- Moves the program counter; it stays within memory. -/
def setCounter (m : Memory) (a : Address) : Memory :=
  { m with counter := wrapAddress a }

/-- Moves the program counter past one instruction. -/
def advance (m : Memory) : Memory :=
  m.setCounter (m.counter + 2)

/-- Moves the program counter back over one instruction. -/
def retreat (m : Memory) : Memory :=
  m.setCounter (m.counter - 2)

/-- Pushes a return address. -/
def push (m : Memory) (a : Address) : Memory :=
  { m with stack := a :: m.stack }

/-- The return address on top of the stack, if there is one, and the memory
    without it. -/
def pop (m : Memory) : Option Address × Memory :=
  (m.stack.head?, { m with stack := m.stack.tail })

/-- One less, or zero. -/
def countDown (timer : UInt8) : UInt8 :=
  if timer = 0 then 0 else timer - 1

/-- Lets both timers count down by one, stopping at zero. -/
def tickTimers (m : Memory) : Memory :=
  { m with delay := countDown m.delay, sound := countDown m.sound }

/-- The instruction word at an address: the byte there, and the next one below
    it. -/
def wordAt (m : Memory) (a : Address) : Word :=
  Word.ofBytes (m.read a) (m.read (a + 1))

/-- The word at the program counter, and the memory with the counter moved past
    it. -/
def fetch (m : Memory) : Word × Memory :=
  (m.wordAt m.counter, m.advance)

/-- A number of words from an address on, each with its address. -/
def wordsFrom (m : Memory) (start : Address) (count : Nat) : List (Address × Word) :=
  (List.range count).map fun k =>
    let a := wrapAddress (start + UInt16.ofNat (2 * k))
    (a, m.wordAt a)

/-- The bytes of the program loaded. -/
def romBytes (m : Memory) : List UInt8 :=
  (m.ram.toList.drop programStart.toNat).take m.romLength

end Memory

end ChipEight
