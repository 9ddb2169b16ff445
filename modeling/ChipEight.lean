import ChipEight.Word
import ChipEight.Text.Hex
import ChipEight.Dialect
import ChipEight.Instruction
import ChipEight.Instruction.Text
import ChipEight.Single
import ChipEight.Single.Decimal
import ChipEight.Display.Plane
import ChipEight.Display.Grid
import ChipEight.Display
import ChipEight.Display.Command
import ChipEight.Display.Render
import ChipEight.Settings
import ChipEight.Memory
import ChipEight.Rom
import ChipEight.Dump
import ChipEight.Generator
import ChipEight.Keypad
import ChipEight.Machine.Outcome
import ChipEight.Machine
import ChipEight.Log
import ChipEight.Machine.Step
import ChipEight.Console
import ChipEight.Console.Session
import ChipEight.Text.Shown
import ChipEight.Text.Quoted
import ChipEight.Keypad.Binding
import ChipEight.CommandLine
import ChipEight.CommandLine.Report
import ChipEight.Main
import ChipEight.Proofs.Display.Modes
import ChipEight.Proofs.Encoding
import ChipEight.Proofs.Machine.Components
import ChipEight.Proofs.Machine.Control
import ChipEight.Proofs.Machine.Step
import ChipEight.Proofs.Machine.Range
import ChipEight.Proofs.Console.Events
import ChipEight.Proofs.Frame
import ChipEight.Proofs.Redraw
import ChipEight.Proofs.ControlFlow
import ChipEight.Proofs.CallReturn
import ChipEight.Proofs.Memory.Wrapping
import ChipEight.Proofs.KeyWait
import ChipEight.Proofs.Display.Respect
import ChipEight.Proofs.Machine.OtherDisplay
import ChipEight.Proofs.Console.Lockstep
import ChipEight.Proofs.Console.Requests
import ChipEight.Proofs.OutsideArea
import ChipEight.Proofs.FadingUnobserved
import ChipEight.Proofs.IndexWrap
import ChipEight.Proofs.Console.Schedule
import ChipEight.Proofs.Machine.Surroundings
import ChipEight.Proofs.Dialects
import ChipEight.Proofs.Interleaving
import ChipEight.Proofs.Sessions
import ChipEight.Proofs.Console.Actions
import ChipEight.Proofs.RandomBytes
import ChipEight.Proofs.Loading
import ChipEight.Proofs.Consistency
import ChipEight.Proofs.DryRun
import ChipEight.Proofs.Timers
import ChipEight.Proofs.Text.Numerals
import ChipEight.Proofs.Text.Clauses
import ChipEight.Proofs.Text.Statements
import ChipEight.Proofs.TraceTruth
import ChipEight.Proofs.Checked.Arithmetic
import ChipEight.Proofs.Checked.Memory
import ChipEight.Proofs.Checked.Display
import ChipEight.Proofs.Checked.Machine
import ChipEight.Proofs.NoTraps
import ChipEight.Proofs.Display.Strokes
import ChipEight.Proofs.Sprites
import ChipEight.Proofs.Drawing
import ChipEight.Proofs.Scrolling
import ChipEight.Proofs.ScrollComposition
import ChipEight.Proofs.Display.Commands
import ChipEight.Proofs.FadeSeeding
import ChipEight.Proofs.PlaneIndependence
import ChipEight.Proofs.ArithmeticResults
import ChipEight.Proofs.BlockTransfers
import ChipEight.Proofs.Text.Lines
import ChipEight.Proofs.Memory.Programs
import ChipEight.Proofs.Rendering
import ChipEight.Proofs.Listing
import ChipEight.Proofs.Dumps
import ChipEight.Proofs.Fetching
import ChipEight.Proofs.WrittenBindings
import ChipEight.Proofs.Holding
import ChipEight.Proofs.HeldBindings
import ChipEight.Proofs.LastWord
import ChipEight.Proofs.Single.Differences
import ChipEight.Proofs.FadeRange
