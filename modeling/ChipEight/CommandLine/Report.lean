import ChipEight.CommandLine
import ChipEight.Console.Session

/-!
# Carrying Out a Command Line

What a command line leads to, given the contents of the file it names: text
for the output, entries for the log, and, if it failed, the reason. The work is
done in order: read the file, load the program, print a dump if one is asked
for, hold keys, run, print the screen and the summary.

## Main definitions

* `Report`: Output, log and failure.
* `Options.report`: The report of a command line that was understood.
* `versionText`: The answer to a question for the version.
-/

namespace ChipEight

/-- What a command line leads to. -/
structure Report where
  output : String := ""
  log : List Entry := []
  /-- The reason it failed, if it did. -/
  failure : Option String := none
  deriving DecidableEq, Repr

/-- The answer to a question for the version. -/
def versionText : String := "duo8 0.1.0\n"

/-- The program loaded as a dump and as a listing, in lines. -/
def Console.dumpText (c : Console) : String :=
  c.machine.memory.annotatedDump ++ "\n" ++ String.join (c.listing.map (· ++ "\n"))

namespace Options

/-- Whether an entry is shown: all are if asked for, else the prominent ones. -/
def shows (o : Options) (e : Entry) : Bool :=
  o.verbose || e.level.isProminent

/-- Runs a console that holds the program, with keys held, and reports. -/
def runReport (o : Options) (c : Console) (loadLog : List Entry) : Report :=
  match c.machine.keypad.hold o.bindings o.held with
  | (some code, _) => { log := loadLog, failure := some (holdMessage code) }
  | (none, keypad) =>
    let session := (c.onKeypad fun _ => keypad).run o.cycles o.perTick
    { output := session.console.render ++ session.summary.text ++ "\n"
      log := loadLog ++ session.log }

/-- The report of a command line with every entry of the log, given the contents
    of the file it names and a seed for when it names none. -/
def fullReport (o : Options) (contents : Except ReadError (List UInt8)) (entropy : UInt64) :
    Report :=
  match Rom.ofFile contents with
  | .error e => { failure := some e.message }
  | .ok rom =>
    let c := (Console.new o.settings (o.seed.getD entropy)).insert rom
    let loadLog := Console.loadLog rom.bytes
    if o.dump then { output := c.dumpText, log := loadLog }
    else o.runReport c loadLog

/-- The report of a command line, with the entries it asks for. -/
def report (o : Options) (contents : Except ReadError (List UInt8)) (entropy : UInt64) :
    Report :=
  let report := o.fullReport contents entropy
  { report with log := report.log.filter o.shows }

end Options

end ChipEight
