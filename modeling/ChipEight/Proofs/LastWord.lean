import ChipEight.Proofs.Console.Actions
import Mathlib.Logic.Basic
import Mathlib.Order.Bounds.Defs

/-!
# The Last Word on a Key

What a keypad is like after a history of commands, told from the history alone.

A key is pressed if the last command that acted on it pressed it. A character
stands for the key that the last command about it gave it. Both sentences have the
same form: of the commands with a say on some matter, the last one decides.
`Keypad.LastWord` is this form. It holds a history against a function that tells
what a command says on the matter, and that may look at the keypad the command
meets. For bindings it need not look. For keys it has to, because a character that
is pressed acts on the key it stands for at that moment, and may stand for another
one when it is released. A key can be left pressed in this way, and then it is its
last word that it was pressed.

All that has to be known of single commands is that each has its word, if it has
one, and changes nothing otherwise (`Keypad.isPressed_afterCommand`,
`Keypad.keyFor_afterCommand`). The rest is one induction over histories
(`Keypad.LastWord.view_replay`).

## Main definitions

* `Keypad.replay`: A keypad after a history of commands.
* `Keypad.Command.word?`: What a command says on a key.
* `Keypad.Command.meaning?`: What a command says on a character.
* `Keypad.Silent`, `Keypad.LastWord`: No word, and the last word, of a history.
* `Keypad.Command.Binds`, `Keypad.Command.ActsOnKeys`: Commands about bindings, and
  commands about keys.

## Theorems

* `Keypad.exists_lastWord`: Every history has a last word or none at all.
* `Keypad.LastWord.view_replay`: The last word decides.
* `Keypad.isPressed_replay_iff`: Which keys are pressed after a history.
* `Keypad.firstPressed_eq_some_iff`: The first key that is pressed is the least.
* `Machine.step_of_firstPressed`: An instruction that waits for a key takes that one.
* `last_word_decides`: What a keypad is like after a history.
-/

namespace ChipEight

namespace Keypad

/-! ### Histories -/

/-- A keypad after a command. -/
def afterCommand (k : Keypad) (command : Command) : Keypad :=
  k.after command.operation

/-- A keypad after a history of commands. -/
def replay (k : Keypad) (history : List Command) : Keypad :=
  history.foldl afterCommand k

@[simp] theorem replay_nil (k : Keypad) : k.replay [] = k :=
  rfl

@[simp] theorem replay_cons (k : Keypad) (command : Command) (rest : List Command) :
    k.replay (command :: rest) = (k.afterCommand command).replay rest :=
  rfl

theorem replay_append (k : Keypad) (first second : List Command) :
    k.replay (first ++ second) = (k.replay first).replay second :=
  List.foldl_append

/-- What a command says on a key: that it is pressed from now on, or released. A
    command that does not act on the key says nothing. Keys are named modulo 16, and
    a character acts on the key it stands for on the keypad at hand. -/
def Command.word? (k : Keypad) (key : Nibble) : Command → Option Bool
  | reset | releaseAll => some false
  | press other => if other.toNat % 16 = key then some true else none
  | release other => if other.toNat % 16 = key then some false else none
  | set other pressed => if other.toNat % 16 = key then some pressed else none
  | pressCode code => if k.keyFor code = some key then some true else none
  | releaseCode code => if k.keyFor code = some key then some false else none
  | bind _ _ | unbind _ => none

/-- What a command says on a character: the key it stands for from now on, if it
    stands for one. -/
def Command.meaning? (code : Char) : Command → Option (Option Nibble)
  | reset => some (defaultBindings.lookup code)
  | bind other key => if other = code then some (some (lowNibble key)) else none
  | unbind other => if other = code then some none else none
  | _ => none

section LastWord

variable {α : Type} {speaks? : Keypad → Command → Option α} {k : Keypad}

/-- No command of a history says anything. -/
def Silent (speaks? : Keypad → Command → Option α) (k : Keypad) (history : List Command) : Prop :=
  ∀ before command after, history = before ++ command :: after →
    speaks? (k.replay before) command = none

/-- The last word of a history, if one was said. Commands say what they say to the
    keypad as it is when they come. -/
inductive LastWord (speaks? : Keypad → Command → Option α) (k : Keypad) :
    List Command → Option α → Prop where
  | unsaid {history : List Command} (silent : Silent speaks? k history) :
      LastWord speaks? k history none
  | said (before : List Command) {command : Command} (after : List Command) {word : α}
      (spoken : speaks? (k.replay before) command = some word)
      (silent : Silent speaks? ((k.replay before).afterCommand command) after) :
      LastWord speaks? k (before ++ command :: after) (some word)

theorem silent_nil : Silent speaks? k [] := by
  intro before command after parts
  simp at parts

theorem silent_cons {command : Command} {rest : List Command} :
    Silent speaks? k (command :: rest) ↔
      speaks? k command = none ∧ Silent speaks? (k.afterCommand command) rest := by
  constructor
  · intro silent
    refine ⟨silent [] command rest rfl, ?_⟩
    intro before later after parts
    exact silent (command :: before) later after (by rw [parts, List.cons_append])
  · rintro ⟨first, silent⟩ before later after parts
    cases before with
    | nil =>
        rw [List.nil_append, List.cons.injEq] at parts
        rw [← parts.1]
        exact first
    | cons _ before =>
        rw [List.cons_append, List.cons.injEq] at parts
        rw [← parts.1]
        exact silent before later after parts.2

/-- A history has a last word, unless no command in it says anything. -/
theorem exists_lastWord (speaks? : Keypad → Command → Option α) (k : Keypad)
    (history : List Command) : ∃ word, LastWord speaks? k history word := by
  induction history generalizing k with
  | nil => exact ⟨none, .unsaid silent_nil⟩
  | cons command rest ih =>
      rcases ih (k.afterCommand command) with ⟨_, last⟩
      cases last with
      | said before after spoken silent => exact ⟨_, .said (command :: before) after spoken silent⟩
      | unsaid silent =>
          -- Nothing is said after the first command, so it has the last word if it has one.
          cases hfirst : speaks? k command with
          | none => exact ⟨none, .unsaid (silent_cons.mpr ⟨hfirst, silent⟩)⟩
          | some word => exact ⟨some word, .said [] rest hfirst silent⟩

theorem Silent.view_replay (view : Keypad → α)
    (decides : ∀ k command, view (k.afterCommand command) = (speaks? k command).getD (view k))
    {history : List Command} (silent : Silent speaks? k history) :
    view (k.replay history) = view k := by
  induction history generalizing k with
  | nil => rfl
  | cons command rest ih =>
      rcases silent_cons.mp silent with ⟨hfirst, hrest⟩
      rw [replay_cons, ih hrest, decides, hfirst, Option.getD_none]

/-- If each command decides what it has a say on, and nothing else, then the last word
    of a history decides, and without one everything is as it was. -/
theorem LastWord.view_replay (view : Keypad → α)
    (decides : ∀ k command, view (k.afterCommand command) = (speaks? k command).getD (view k))
    {history : List Command} {word : Option α} (last : LastWord speaks? k history word) :
    view (k.replay history) = word.getD (view k) := by
  cases last with
  | unsaid silent => exact silent.view_replay view decides
  | said before after spoken silent =>
      rw [replay_append, replay_cons, silent.view_replay view decides, decides, spoken]
      rfl

end LastWord

/-! ### Single commands -/

/-- A word that is only said under a condition. -/
theorem getD_ite_none {α : Type} {condition : Prop} [Decidable condition] (word otherwise : α) :
    (if condition then some word else none).getD otherwise =
      if condition then word else otherwise := by
  split
  · rfl
  · rfl

/-- A command presses and releases the keys it has a word on, and no others. -/
theorem isPressed_afterCommand (k : Keypad) (command : Command) (key : Nibble) :
    (k.afterCommand command).isPressed key = (command.word? k key).getD (k.isPressed key) := by
  have hset : ∀ (other : UInt8) (pressed : Bool), (k.set other pressed).isPressed key =
      (if other.toNat % 16 = key then some pressed else none).getD (k.isPressed key) := by
    intro other pressed
    rw [isPressed_set, getD_ite_none]
    exact if_congr lowNibble_eq_iff rfl rfl
  cases command with
  | reset | releaseAll =>
      simp [afterCommand, Command.operation, after, initial, releaseAll, isPressed, Command.word?]
  | press other | release other | set other => exact hset other _
  | bind | unbind => rfl
  | pressCode code | releaseCode code =>
      -- The key that is meant is the one the character stands for now.
      simp only [afterCommand, Command.operation, after, pressCode, releaseCode, Command.word?]
      cases hkey : k.keyFor code with
      | none => simp
      | some other =>
          by_cases same : other = key
          · simp [press, release, isPressed_set, same]
          · simp [press, release, isPressed_set, same]

/-- A command that gives a character a key, or takes it away. -/
def Command.Binds : Command → Prop
  | bind _ _ | unbind _ => True
  | _ => False

/-- A command that presses or releases keys. -/
def Command.ActsOnKeys : Command → Prop
  | press _ | release _ | set _ _ | releaseAll | pressCode _ | releaseCode _ => True
  | _ => False

theorem pressed_afterCommand (k : Keypad) {command : Command} (binds : command.Binds) :
    (k.afterCommand command).pressed = k.pressed := by
  cases command with
  | bind | unbind => rfl
  | _ => cases binds

theorem bindings_afterCommand (k : Keypad) {command : Command} (acts : command.ActsOnKeys) :
    (k.afterCommand command).bindings = k.bindings := by
  cases command with
  | press | release | set | releaseAll => rfl
  | pressCode code | releaseCode code =>
      simp only [afterCommand, Command.operation, after, pressCode, releaseCode]
      split
      · rfl
      · rfl
  | _ => cases acts

/-- A command changes what it has a say on, and no other character. -/
theorem keyFor_afterCommand (k : Keypad) (command : Command) (code : Char) :
    (k.afterCommand command).keyFor code = (command.meaning? code).getD (k.keyFor code) := by
  cases command with
  | reset => rfl
  | press | release | set | releaseAll | pressCode | releaseCode =>
      refine congrArg (List.lookup code) (k.bindings_afterCommand ?_)
      trivial
  | bind other key =>
      rw [Command.meaning?, getD_ite_none]
      exact keyFor_bind k other code key
  | unbind other =>
      rw [Command.meaning?, getD_ite_none]
      exact keyFor_unbind k other code

/-! ### Keys after a history -/

/-- A key is pressed if its last word is that it was pressed. Without any it is
    released, as all keys are in the beginning. -/
theorem isPressed_replay_iff (history : List Command) (key : Nibble) :
    (initial.replay history).isPressed key = true ↔
      LastWord (fun k command => command.word? k key) initial history (some true) := by
  have hreleased : initial.isPressed key = false := by simp [initial, isPressed]
  have hview : ∀ {word}, LastWord (fun k command => command.word? k key) initial history word →
      (initial.replay history).isPressed key = word.getD false := by
    intro word last
    rw [← hreleased]
    exact last.view_replay (·.isPressed key) fun k command =>
      k.isPressed_afterCommand command key
  constructor
  · intro pressed
    rcases exists_lastWord (fun k command => command.word? k key) initial history with ⟨word, last⟩
    have hword := hview last
    rw [pressed] at hword
    cases word with
    | none => cases hword
    | some word =>
        rw [Option.getD_some] at hword
        rwa [← hword] at last
  · intro last
    exact hview last

theorem isLeast_of_firstPressed {k : Keypad} {key : Nibble} (first : k.firstPressed = some key) :
    IsLeast {key | k.isPressed key = true} key := by
  refine ⟨List.find?_some first, fun other pressed => ?_⟩
  rcases List.find?_eq_some_iff_getElem.mp first with ⟨-, i, hi, hkey, hsmaller⟩
  have hi' : i = key := by simp [← hkey]
  -- A smaller key would have been found before.
  refine Fin.not_lt.mp fun smaller => ?_
  have hother := hsmaller other (by omega)
  have hpressed : k.isPressed other = true := pressed
  simp [hpressed] at hother

/-- The first key that is pressed is the least one. -/
theorem firstPressed_eq_some_iff {k : Keypad} {key : Nibble} :
    k.firstPressed = some key ↔ IsLeast {key | k.isPressed key = true} key := by
  refine ⟨isLeast_of_firstPressed, fun least => ?_⟩
  cases hfirst : k.firstPressed with
  | none =>
      have hpressed : k.isPressed key = true := least.1
      rw [k.firstPressed_eq_none_iff.mp hfirst key] at hpressed
      cases hpressed
  | some first =>
      have hleast := isLeast_of_firstPressed hfirst
      exact congrArg some (Fin.le_antisymm (hleast.2 least.1) (least.2 hleast.1))

end Keypad

/-- An instruction that waits for a key takes the first one that is pressed, and does
    nothing else. -/
theorem Machine.step_of_firstPressed {m : Machine} {x : Register} {key : Nibble}
    (next : m.next = .awaitKey x) (first : m.keypad.firstPressed = some key) :
    m.step.2 = m.fetched.setReg x key.toByte ∧ m.step.1.effect.waiting = false := by
  have hfirst : m.fetched.keypad.firstPressed = some key := first
  have hperform : m.fetched.perform m.next =
      (.note (.keyTaken key (m.fetched.assignment x key.toByte)),
        m.fetched.setReg x key.toByte) := by
    rw [next, perform, awaitKey]
    simp only [hfirst]
  rw [step_eq_perform, hperform]
  exact ⟨rfl, rfl⟩

open Keypad in
/-- A keypad after any history of commands. A key is pressed exactly if the last
    command that acted on it pressed it. A character stands for the key that the last
    command about it gave it, for none if that command took its key away, and for its
    key on the usual layout if there was no such command. The first key that is pressed
    is the least one, and this is the key that an instruction takes which waits for
    one. Commands about bindings press and release nothing, and commands about keys bind
    nothing. -/
theorem last_word_decides (history : List Keypad.Command) :
    let k := initial.replay history
    (∀ key, k.isPressed key = true ↔
      LastWord (fun k command => command.word? k key) initial history (some true)) ∧
    (∀ code,
      (∃ word, LastWord (fun _ command => command.meaning? code) initial history word) ∧
        ∀ word, LastWord (fun _ command => command.meaning? code) initial history word →
          k.keyFor code = word.getD (defaultBindings.lookup code)) ∧
    (∀ key, k.firstPressed = some key ↔ IsLeast {key | k.isPressed key = true} key) ∧
    (k.firstPressed = none ↔ ∀ key, k.isPressed key = false) ∧
    (∀ (m : Machine) (x : Register) (key : Nibble), m.keypad = k → m.next = .awaitKey x →
      IsLeast {key | k.isPressed key = true} key →
        m.step.2 = m.fetched.setReg x key.toByte ∧ m.step.1.effect.waiting = false) ∧
    (∀ (k : Keypad) (command : Command), command.Binds →
      (k.afterCommand command).pressed = k.pressed) ∧
    ∀ (k : Keypad) (command : Command), command.ActsOnKeys →
      (k.afterCommand command).bindings = k.bindings := by
  intro k
  refine ⟨isPressed_replay_iff history, fun code => ⟨?_, ?_⟩, fun key => firstPressed_eq_some_iff,
    k.firstPressed_eq_none_iff, ?_, fun k command => k.pressed_afterCommand,
    fun k command => k.bindings_afterCommand⟩
  · exact exists_lastWord _ initial history
  · intro word last
    exact last.view_replay (·.keyFor code) fun k command =>
      k.keyFor_afterCommand command code
  · intro m x key keypad next least
    refine Machine.step_of_firstPressed next ?_
    rw [keypad]
    exact firstPressed_eq_some_iff.mpr least

namespace Keypad

/-- A character is pressed, stands for another key after that, and is released. In the
    end another key is pressed, which is named by more than its low digit. -/
def rebound : List Command :=
  [.pressCode 'q', .bind 'q' 0x15, .releaseCode 'q', .press 0xF7]

/-- A machine that waits for a key, with the keypad after that. -/
def rebinding : Machine :=
  { ((Console.new {} 0).replay [.load [0xF3, 0x0A]]).machine with
    keypad := initial.replay rebound }

end Keypad

open Keypad in
/-- The key that was pressed first stays so, because what is released is the key that
    the character stands for by then. It is the one that the instruction takes. -/
theorem last_word_decides_when_rebound :
    let k := initial.replay rebound
    k.isPressed 4 = true ∧
      LastWord (fun k command => command.word? k 4) initial rebound (some true) ∧
      k.keyFor 'q' = some 5 ∧ k.firstPressed = some 4 ∧ rebinding.next = .awaitKey 3 ∧
      rebinding.step.2 = rebinding.fetched.setReg 3 4 := by
  intro k
  rcases last_word_decides rebound with ⟨hpressed, hmeaning, hfirst, -, htaken, -, -⟩
  have first : k.firstPressed = some 4 := by decide +kernel
  have next : rebinding.next = .awaitKey 3 := by decide +kernel
  have least := (hfirst 4).mp first
  have last : LastWord (fun _ command => command.meaning? 'q') initial rebound (some (some 5)) := by
    refine .said [.pressCode 'q'] [.releaseCode 'q', .press 0xF7] (by decide +kernel) ?_
    exact silent_cons.mpr ⟨rfl, silent_cons.mpr ⟨rfl, silent_nil⟩⟩
  exact ⟨least.1, (hpressed 4).mp least.1, (hmeaning 'q').2 _ last, first, next,
    (htaken rebinding 3 4 rfl next least).1⟩

end ChipEight
