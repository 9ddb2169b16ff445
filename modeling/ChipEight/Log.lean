/-!
# Log Entries

What the machine and its host have to say while they run, apart from their
output.

## Main definitions

* `Level`: How much an entry matters.
* `Entry`: A level and a message.
-/

namespace ChipEight

/-- How much an entry matters, least first. -/
inductive Level where
  | trace
  | debug
  | info
  | warn
  deriving DecidableEq, Repr

namespace Level

/-- The name of a level. -/
def name : Level → String
  | trace => "TRACE"
  | debug => "DEBUG"
  | info => "INFO"
  | warn => "WARN"

/-- Whether an entry of this level is shown even when the host did not ask for
    every one. -/
def isProminent : Level → Bool
  | trace | debug => false
  | info | warn => true

end Level

/-- An entry of the log. -/
structure Entry where
  level : Level
  message : String
  deriving DecidableEq, Repr

end ChipEight
