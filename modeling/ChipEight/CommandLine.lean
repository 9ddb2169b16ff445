import ChipEight.Keypad.Binding
import ChipEight.Settings
import ChipEight.Single.Decimal

/-!
# Command Lines

A command line names one program to load among options in any order. Options
are long or short; those with a value take it from behind an equals sign, from
the rest of a group of short ones, or from the next argument unless that looks
like an option itself. Two dashes end the options.

Reading has two stages. The first sorts arguments into tokens without looking
at any value; the second takes the tokens in order, and the first one that
does not fit, or that asks for the version, decides.

## Main definitions

* `Switch`: The options there are.
* `Token`: An argument after the first stage.
* `Token.ofArguments`: The first stage.
* `Options`: What a command line asks for.
* `UsageError`: Why it cannot be understood.
* `Request.ofArguments`: Both stages.
-/

namespace ChipEight

/-- The options. -/
inductive Switch where
  | cycles
  | perTick
  | seed
  | shiftUsesY
  | jumpUsesX
  | indexAdvances
  | flagFirst
  | extended
  | planes
  | noFade
  | fadeSpeed
  | hold
  | bind
  | dump
  | verbose
  | version
  deriving DecidableEq, Repr

namespace Switch

/-- The long name of an option, after its two dashes. -/
def long : Switch → String
  | cycles => "cycles"
  | perTick => "per-tick"
  | seed => "seed"
  | shiftUsesY => "shift-uses-vy"
  | jumpUsesX => "jump-offset-uses-vx"
  | indexAdvances => "index-advances"
  | flagFirst => "flag-before-result"
  | extended => "hires"
  | planes => "planes"
  | noFade => "no-fade"
  | fadeSpeed => "fade-speed"
  | hold => "hold"
  | bind => "bind"
  | dump => "dump"
  | verbose => "verbose"
  | version => "version"

/-- Every option. -/
def all : List Switch :=
  [cycles, perTick, seed, shiftUsesY, jumpUsesX, indexAdvances, flagFirst, extended,
   planes, noFade, fadeSpeed, hold, bind, dump, verbose, version]

/-- The option with a long name. -/
def ofLong (name : String) : Option Switch :=
  all.find? fun s => s.long = name

/-- The option with a short name. -/
def ofShort : Char → Option Switch
  | 'c' => some cycles
  | 'v' => some verbose
  | 'V' => some version
  | _ => none

/-- Whether the option has a value. -/
def takesValue : Switch → Bool
  | cycles | perTick | seed | planes | fadeSpeed | hold | bind => true
  | _ => false

end Switch

/-- Why a command line cannot be understood. -/
inductive UsageError where
  | unknownOption (name : String)
  | missingValue (s : Switch)
  | unexpectedValue (s : Switch) (value : String)
  | invalidValue (s : Switch) (value : String)
  | repeated (s : Switch)
  | unexpectedArgument (argument : String)
  | emptyPath
  | missingPath
  deriving DecidableEq, Repr

/-- The reason as told to a user. -/
def UsageError.message : UsageError → String
  | unknownOption name => s!"unexpected argument '{name}' found"
  | missingValue s => s!"a value is required for '--{s.long}' but none was supplied"
  | unexpectedValue s value => s!"unexpected value '{value}' for '--{s.long}' found"
  | invalidValue s value => s!"invalid value '{value}' for '--{s.long}'"
  | repeated s => s!"the argument '--{s.long}' cannot be used multiple times"
  | unexpectedArgument argument => s!"unexpected argument '{argument}' found"
  | emptyPath => "a value is required for '<ROM>' but none was supplied"
  | missingPath => "the following required arguments were not provided: <ROM>"

/-- An argument, or part of one, after the first stage. -/
inductive Token where
  | path (argument : String)
  | flag (s : Switch)
  | valued (s : Switch) (value : String)
  | misused (error : UsageError)
  deriving DecidableEq, Repr

namespace Token

/-- The tokens of a group of short options, and the option at its end that still
    needs a value. An option with a value ends the group and takes what is left
    of it. -/
def ofGroup : List Char → List Token × Option Switch
  | [] => ([], none)
  | c :: cs =>
    match Switch.ofShort c with
    | none => ([misused (.unknownOption ("-".push c))], none)
    | some s =>
      if s.takesValue then
        match cs with
        | [] => ([], some s)
        | '=' :: value => ([valued s (String.ofList value)], none)
        | value => ([valued s (String.ofList value)], none)
      else
        let (tokens, pending) := ofGroup cs
        (flag s :: tokens, pending)

/-- The token of a long option, or the option if it still needs a value. -/
def ofLong (name : List Char) : List Token × Option Switch :=
  let (name, value) := match Binding.splitEquals name with
    | some (name, value) => (String.ofList name, some (String.ofList value))
    | none => (String.ofList name, none)
  match Switch.ofLong name, value with
  | none, _ => ([misused (.unknownOption ("--" ++ name))], none)
  | some s, some value =>
    if s.takesValue then ([valued s value], none)
    else ([misused (.unexpectedValue s value)], none)
  | some s, none => if s.takesValue then ([], some s) else ([flag s], none)

/-- The complaint about an option that is still waiting for its value. -/
def abandoned : Option Switch → List Token
  | some s => [misused (.missingValue s)]
  | none => []

/-- Sorts arguments into tokens, beginning with an option that may be waiting
    for its value. -/
def ofArguments (pending : Option Switch) : List String → List Token
  | [] => abandoned pending
  | argument :: rest =>
    match argument.toList with
    | ['-', '-'] => abandoned pending ++ rest.map path
    | '-' :: '-' :: name =>
      let (tokens, pending') := ofLong name
      abandoned pending ++ tokens ++ ofArguments pending' rest
    | '-' :: c :: cs =>
      let (tokens, pending') := ofGroup (c :: cs)
      abandoned pending ++ tokens ++ ofArguments pending' rest
    | _ =>
      match pending with
      | some s => valued s argument :: ofArguments none rest
      | none => path argument :: ofArguments none rest

end Token

/-- What a command line asks for. -/
structure Options where
  path : String
  cycles : Nat := 1000
  perTick : Nat := 10
  seed : Option UInt64 := none
  settings : Settings := {}
  held : String := ""
  bindings : List (Char × UInt8) := []
  dump : Bool := false
  verbose : Bool := false
  deriving DecidableEq, Repr

/-- The options read so far, and those of them that may not come again. -/
structure Draft where
  path : Option String := none
  options : Options := { path := "" }
  seen : List Switch := []
  deriving DecidableEq, Repr

/-- Reads a whole number below a bound, with an optional plus sign. -/
def parseNatBelow? (bound : Nat) (text : String) : Option Nat :=
  let digits := match text.toList with
    | '+' :: cs => cs
    | cs => cs
  (Decimal.wholeDigits? digits).filter fun n => decide (n < bound)

/-- Reads a selection of planes: a byte. Behind an equals sign, a zero may even
    have a minus sign. -/
def parseSelection? (text : String) : Option Selection :=
  match text.toList with
  | '-' :: cs => if Decimal.wholeDigits? cs = some 0 then some (.ofBits 0) else none
  | _ => (parseNatBelow? 256 text).map Selection.ofBits

namespace Options

/-- Changes the dialect. -/
def withDialect (o : Options) (f : Dialect → Dialect) : Options :=
  { o with settings := { o.settings with dialect := f o.settings.dialect } }

/-- Raises a flag. -/
def raise (o : Options) : Switch → Options
  | .shiftUsesY => o.withDialect fun d => { d with shiftUsesY := true }
  | .jumpUsesX => o.withDialect fun d => { d with jumpUsesX := true }
  | .indexAdvances => o.withDialect fun d => { d with indexAdvances := true }
  | .flagFirst => o.withDialect fun d => { d with flagFirst := true }
  | .extended => { o with settings := { o.settings with resolution := .extended } }
  | .noFade =>
    { o with settings := { o.settings with fading := { o.settings.fading with enabled := false } } }
  | .dump => { o with dump := true }
  | .verbose => { o with verbose := true }
  | _ => o

/-- Gives an option its value, unless the value cannot be read. -/
def assign? (o : Options) (s : Switch) (value : String) : Option Options :=
  match s with
  | .cycles => (parseNatBelow? UInt64.size value).map fun n => { o with cycles := n }
  | .perTick => (parseNatBelow? UInt64.size value).map fun n => { o with perTick := n }
  | .seed => (parseNatBelow? UInt64.size value).map fun n => { o with seed := some (.ofNat n) }
  | .planes => (parseSelection? value).map fun selection =>
    { o with settings := { o.settings with selection := selection } }
  | .fadeSpeed => (Single.parse? value).map fun speed =>
    { o with settings := { o.settings with fading := { o.settings.fading with speed := speed } } }
  | .hold => some { o with held := value }
  | .bind => (Binding.parse value).toOption.map fun b => { o with bindings := o.bindings ++ [b] }
  | _ => none

end Options

/-- What to do. -/
inductive Request where
  | version
  | start (options : Options)
  deriving DecidableEq, Repr

namespace Draft

/-- Notes that an option was used; only bindings may come more than once. -/
def mark (d : Draft) (s : Switch) : Except UsageError Draft :=
  if s = .bind then .ok d
  else if s ∈ d.seen then .error (.repeated s)
  else .ok { d with seen := s :: d.seen }

/-- Takes one token. -/
def accept (d : Draft) : Token → Except UsageError Draft
  | .misused e => .error e
  | .path argument =>
    if d.path.isSome then .error (.unexpectedArgument argument)
    else if argument = "" then .error .emptyPath
    else .ok { d with path := some argument }
  | .flag s => (d.mark s).map fun d => { d with options := d.options.raise s }
  | .valued s value => do
    let d ← d.mark s
    match d.options.assign? s value with
    | some options => .ok { d with options := options }
    | none => .error (.invalidValue s value)

/-- The request once all tokens are taken. -/
def finish (d : Draft) : Except UsageError Request :=
  match d.path with
  | some path => .ok (.start { d.options with path := path })
  | none => .error .missingPath

/-- Takes tokens in order. Asking for the version ends it. -/
def acceptAll (d : Draft) : List Token → Except UsageError Request
  | [] => d.finish
  | .flag .version :: _ => .ok .version
  | token :: rest => do
    let d ← d.accept token
    d.acceptAll rest

end Draft

/-- Reads a command line. -/
def Request.ofArguments (arguments : List String) : Except UsageError Request :=
  ({} : Draft).acceptAll (Token.ofArguments none arguments)

end ChipEight
