import ChipEight.Proofs.Console.Requests
import ChipEight.Proofs.Sessions

/-!
# Everything a Host Does

What a host can do with a console, in its own terms, and the history it comes
to.

A host names keys by bytes, lets instructions run in three ways, and may have
some described without running them. All this leaves a console where a history
of events leaves it. For instructions run one at a time, or so many of them,
that is plain. A session decides for itself how far it goes, so its history is
read off the session once it is over; that it did no more and no less is what
`Session.OnSchedule` says.

A statement about everything a console may have been through is then an
induction over events, whichever way a host brought them about.

## Main definitions

* `Keypad.Command`: What a host does to a keypad.
* `Console.Action`, `Console.act`: What a host does to a console, and the console
  after a number of actions.
* `Console.history`: The events that actions come to.
* `Console.executions`: The machines that execute an instruction over a history.

## Theorems

* `Console.following_eq_replay`: Every request is a history.
* `Console.act_eq_replay`: So is everything a host does.
-/

namespace ChipEight

/-- What a host does to a keypad. Keys are named by bytes, of which only the low
    four bits count. -/
inductive Keypad.Command where
  /-- A keypad as it comes. -/
  | reset
  | press (key : UInt8)
  | release (key : UInt8)
  | set (key : UInt8) (pressed : Bool)
  | releaseAll
  | bind (code : Char) (key : UInt8)
  | unbind (code : Char)
  | pressCode (code : Char)
  | releaseCode (code : Char)

/-- The operation that a command stands for. -/
def Keypad.Command.operation : Command → Operation
  | reset => .reset
  | press key => .set key true
  | release key => .set key false
  | set key pressed => .set key pressed
  | releaseAll => .releaseAll
  | bind code key => .bind code key
  | unbind code => .unbind code
  | pressCode code => .pressCode code
  | releaseCode code => .releaseCode code

namespace Console

/-! ### Actions -/

/-- What a host does to a console. -/
inductive Action where
  | step
  /-- A number of instructions. -/
  | steps (count : Nat)
  /-- A session. -/
  | run (cycles perTick : Nat)
  | tick
  | keys (command : Keypad.Command)
  | setDialect (dialect : Dialect)
  | setFading (fading : Fading)
  | load (bytes : List UInt8)
  /-- A description of the instruction at an address. -/
  | explain (a : Address)
  /-- Descriptions of a number of instructions. -/
  | disassemble (start : Address) (count : Nat)

/-- What an action asks of a console. To describe instructions is to ask nothing
    of it. -/
def Action.request? : Action → Option Request
  | step => some (.event .step)
  | steps count => some (.steps count)
  | run cycles perTick => some (.run cycles perTick)
  | tick => some (.event .tick)
  | keys command => some (.event (.keys command.operation))
  | setDialect dialect => some (.event (.setDialect dialect))
  | setFading fading => some (.event (.setFading fading))
  | load bytes => some (.event (.load bytes))
  | explain _ | disassemble _ _ => none

/-- The console after an action. -/
def afterAction (c : Console) (a : Action) : Console :=
  match a.request? with
  | some r => c.following r
  | none => c

/-- The console after a number of actions. -/
def act (c : Console) (actions : List Action) : Console :=
  actions.foldl afterAction c

/-! ### Actions as histories -/

/-- The events that a request comes to. -/
def requestHistory (c : Console) : Request → List Event
  | .event e => [e]
  | .steps count => .replicate count .step
  | .run cycles perTick => schedule (max perTick 1) (c.run cycles perTick).summary.executed

/-- The events that an action comes to. -/
def actionHistory (c : Console) (a : Action) : List Event :=
  match a.request? with
  | some r => c.requestHistory r
  | none => []

/-- The events that a number of actions come to. -/
def history (c : Console) : List Action → List Event
  | [] => []
  | a :: rest => c.actionHistory a ++ (c.afterAction a).history rest

theorem following_eq_replay (c : Console) (r : Request) :
    c.following r = c.replay (c.requestHistory r) := by
  cases r with
  | event e => rfl
  | steps count => rw [following, requestHistory, steps_eq_replay]
  | run cycles perTick => exact (Session.onSchedule_run c cycles perTick).console

theorem afterAction_eq_replay (c : Console) (a : Action) :
    c.afterAction a = c.replay (c.actionHistory a) := by
  unfold afterAction actionHistory
  cases a.request? with
  | none => rfl
  | some r => exact c.following_eq_replay r

theorem act_eq_replay (c : Console) (actions : List Action) :
    c.act actions = c.replay (c.history actions) := by
  induction actions generalizing c with
  | nil => rfl
  | cons a rest ih =>
      rw [history, replay_append, ← afterAction_eq_replay, ← ih]
      rfl

theorem Reachable.act {c : Console} (reached : c.Reachable) (actions : List Action) :
    (c.act actions).Reachable := by
  rw [act_eq_replay]
  exact reached.replay _

/-! ### Executions -/

/-- The machine that executes an instruction at an event, if one does. -/
def executing? (c : Console) : Event → Option Machine
  | .step => some c.machine
  | _ => none

/-- The machines that execute an instruction over a history, each as it is
    before the instruction. -/
def executions (c : Console) : List Event → List Machine
  | [] => []
  | e :: rest => (c.executing? e).toList ++ (c.after e).executions rest

end Console

end ChipEight
