import ChipEight.Proofs.Console.Events

/-!
# Requests and Answers

A console as its host sees it: requests that change it and are answered, and
what can be looked at in between.

The events of a history say what happens to a console and leave out what comes
back. Here both are kept, and with them the two requests that are histories of
their own, a number of instructions and a session. A statement about what a
host can find out is a statement about answers and views.

## Main definitions

* `Console.Request`, `Console.Answer`: What a host can ask for, and what it is
  told.
* `Console.answer`, `Console.following`: The answer to a request, and the console
  after it.
* `Console.answers`, `Console.serve`: The same for requests in a row.
* `Console.View`, `Console.view`: What a host can look at.
-/

namespace ChipEight

/-- The key that an operation on a keypad gives back: the one that the character
    it is given stands for. -/
def Keypad.answer? (k : Keypad) : Operation → Option Nibble
  | .unbind code | .pressCode code | .releaseCode code => k.keyFor code
  | _ => none

namespace Console

/-- What a host can ask a console for. -/
inductive Request where
  | event (e : Event)
  /-- A number of instructions. -/
  | steps (count : Nat)
  /-- A session. -/
  | run (cycles perTick : Nat)

/-- What a host is told. -/
inductive Answer where
  /-- Nothing but that it was done. -/
  | done
  | record (d : Decoded)
  | records (ds : List Decoded)
  | session (summary : Summary) (trail : List Decoded)
  | refused (reason : LoadError)
  | key (key : Option Nibble)
  deriving DecidableEq

/-- The answer to a request. -/
def answer (c : Console) : Request → Answer
  | .event .step => .record c.step.1
  | .event (.keys operation) => .key (c.machine.keypad.answer? operation)
  | .event (.load bytes) => match c.load bytes with
    | .ok _ => .done
    | .error reason => .refused reason
  | .event _ => .done
  | .steps count => .records (c.steps count).1
  | .run cycles perTick =>
    let session := c.run cycles perTick
    .session session.summary session.trail

/-- The console after a request. -/
def following (c : Console) : Request → Console
  | .event e => c.after e
  | .steps count => (c.steps count).2
  | .run cycles perTick => (c.run cycles perTick).console

/-- The answers to requests in a row. -/
def answers (c : Console) : List Request → List Answer
  | [] => []
  | r :: rest => c.answer r :: (c.following r).answers rest

/-- The console after requests in a row. -/
def serve (c : Console) (requests : List Request) : Console :=
  requests.foldl following c

/-- What a host can look at without changing it. -/
structure View where
  screen : String
  listing : List String
  dump : String
  annotatedDump : String
  explained : Address → Decoded
  sounding : Bool

/-- What a host sees of a console. -/
def view (c : Console) : View where
  screen := c.render
  listing := c.listing
  dump := c.machine.memory.hexDump
  annotatedDump := c.machine.memory.annotatedDump
  explained := c.explainAt
  sounding := c.soundActive

end Console

end ChipEight
