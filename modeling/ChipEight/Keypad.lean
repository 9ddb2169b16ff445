import ChipEight.Word

/-!
# The Keypad

Sixteen keys, each pressed or not, and the characters of the host's keyboard
that stand for them. A host names keys by bytes, of which only the low four bits
count. By default the pad lies on the left four columns of the letters and digits:

```text
|1|2|3|C|      |1|2|3|4|
|4|5|6|D|  on  |Q|W|E|R|
|7|8|9|E|      |A|S|D|F|
|A|0|B|F|      |Z|X|C|V|
```

## Main definitions

* `Keypad`: The pressed keys and the bindings.
* `Keypad.set`, `Keypad.press`, `Keypad.release`: Change one key.
* `Keypad.firstPressed`: The lowest key held down.
* `Keypad.bind`, `Keypad.unbind`, `Keypad.keyFor`: The bindings.
* `Keypad.hold`: Presses the keys that a text stands for.

## Theorems

* `Keypad.isPressed_set`, `Keypad.isPressed_press_toByte`: Which keys are pressed
  after one was changed.
* `Keypad.keyFor_bind`, `Keypad.keyFor_unbind`: What characters stand for after
  one was bound, or its binding taken away.
-/

namespace ChipEight

/-- The state of the keys, and which characters stand for them. -/
structure Keypad where
  pressed : Vector Bool 16
  /-- At most one key for each character. -/
  bindings : List (Char × Nibble)
  deriving DecidableEq, Repr

namespace Keypad

/-- The characters that stand for keys unless they are bound anew, in the order of
    their keys. -/
def defaultBindings : List (Char × Nibble) :=
  ['x', '1', '2', '3', 'q', 'w', 'e', 'a', 's', 'd', 'z', 'c', '4', 'r', 'f', 'v'].zip
    (List.finRange 16)

/-- No key pressed, default bindings. -/
def initial : Keypad :=
  ⟨.replicate _ false, defaultBindings⟩

/-- Whether a key is pressed. -/
def isPressed (k : Keypad) (key : Nibble) : Bool :=
  k.pressed[key]

/-- Presses or releases a key. -/
def set (k : Keypad) (key : UInt8) (pressed : Bool) : Keypad :=
  { k with pressed := k.pressed.set (lowNibble key) pressed }

theorem isPressed_set (k : Keypad) (key : UInt8) (other : Nibble) (pressed : Bool) :
    (k.set key pressed).isPressed other =
      if lowNibble key = other then pressed else k.isPressed other := by
  simp only [isPressed, set, Fin.getElem_fin, Vector.getElem_set, Fin.val_inj]

/-- Presses a key. -/
def press (k : Keypad) (key : UInt8) : Keypad :=
  k.set key true

/-- Releases a key. -/
def release (k : Keypad) (key : UInt8) : Keypad :=
  k.set key false

theorem isPressed_press_toByte (k : Keypad) (key other : Nibble) :
    (k.press key.toByte).isPressed other = if key = other then true else k.isPressed other := by
  rw [press, isPressed_set, lowNibble_toByte]

/-- Releases every key. -/
def releaseAll (k : Keypad) : Keypad :=
  { k with pressed := .replicate _ false }

/-- The lowest key that is pressed. -/
def firstPressed (k : Keypad) : Option Nibble :=
  (List.finRange 16).find? k.isPressed

/-- The key a character stands for. -/
def keyFor (k : Keypad) (code : Char) : Option Nibble :=
  k.bindings.lookup code

/-- Lets no key be meant by a character. -/
def unbind (k : Keypad) (code : Char) : Keypad :=
  { k with bindings := k.bindings.filter fun b => b.1 != code }

/-- Lets a character stand for a key, and for no other. -/
def bind (k : Keypad) (code : Char) (key : UInt8) : Keypad :=
  { k with bindings := (code, lowNibble key) :: (k.unbind code).bindings }

/-- What stands for a character is not found any more once it is taken away. -/
theorem lookup_filter_bne {α : Type} (bindings : List (Char × α)) (code other : Char) :
    (bindings.filter fun b => b.1 != code).lookup other =
      if code = other then none else bindings.lookup other := by
  induction bindings with
  | nil => simp
  | cons b rest ih =>
    obtain ⟨c, key⟩ := b
    grind

theorem keyFor_unbind (k : Keypad) (code other : Char) :
    (k.unbind code).keyFor other = if code = other then none else k.keyFor other :=
  lookup_filter_bne k.bindings code other

theorem keyFor_bind (k : Keypad) (code other : Char) (key : UInt8) :
    (k.bind code key).keyFor other =
      if code = other then some (lowNibble key) else k.keyFor other := by
  have h := keyFor_unbind k code other
  simp only [keyFor, bind, List.lookup_cons] at h ⊢
  grind

/-- Presses the key a character stands for, if any. -/
def pressCode (k : Keypad) (code : Char) : Keypad :=
  match k.keyFor code with
  | some key => k.press key.toByte
  | none => k

/-- Releases the key a character stands for, if any. -/
def releaseCode (k : Keypad) (code : Char) : Keypad :=
  match k.keyFor code with
  | some key => k.release key.toByte
  | none => k

/-- Makes bindings one after another, so that later ones win. -/
def bindAll (k : Keypad) (bindings : List (Char × UInt8)) : Keypad :=
  bindings.foldl (fun k b => k.bind b.1 b.2) k

/-- Presses the keys that characters stand for, in turn. An upper-case letter
    means its lower-case one. The first character that stands for no key ends
    it, and is given back beside the keys pressed so far. -/
def holdChars (k : Keypad) : List Char → Option Char × Keypad
  | [] => (none, k)
  | c :: cs =>
    match k.keyFor c.toLower with
    | some key => (k.press key.toByte).holdChars cs
    | none => (some c, k)

/-- Makes bindings, then presses the keys that a text stands for. -/
def hold (k : Keypad) (bindings : List (Char × UInt8)) (held : String) :
    Option Char × Keypad :=
  (k.bindAll bindings).holdChars held.toList

end Keypad

end ChipEight
