import ChipEight.CommandLine.Report

/-!
# The Program

Reads the file that the command line names, has the work done, and writes its
output to the standard output and its log and complaints to the standard error.
The exit code is 2 for a command line that cannot be understood and 1 for work
that failed.
-/

namespace ChipEight

/-- The failure that an error number of the system and its words stand for. Some
    calls give the number with its sign turned. -/
def readErrorOfCode (code : UInt32) (reason : String) : ReadError :=
  let number := if code < 0x80000000 then code.toNat else (0 - code).toNat
  if number = 2 then .notFound
  else if number = 20 then .notDirectory
  else if number = 21 then .isDirectory
  else if number = 36 then .nameTooLong
  else .other reason.capitalize number

/-- The failure behind an error of the system. -/
def readErrorOf : IO.Error → ReadError
  | .otherError code reason
  | .resourceBusy code reason | .resourceVanished code reason
  | .unsupportedOperation code reason | .hardwareFault code reason
  | .unsatisfiedConstraints code reason | .illegalOperation code reason
  | .protocolError code reason | .timeExpired code reason
  | .interrupted _ code reason | .invalidArgument _ code reason
  | .noFileOrDirectory _ code reason | .permissionDenied _ code reason
  | .resourceExhausted _ code reason | .inappropriateType _ code reason
  | .alreadyExists _ code reason | .noSuchThing _ code reason => readErrorOfCode code reason
  | .unexpectedEof => .other "unexpected end of file" 0
  | .userError reason => .other reason 0

/-- The bytes of a file. -/
def readContents (path : String) : IO (Except ReadError (List UInt8)) := do
  try
    let bytes ← IO.FS.readBinFile path
    return .ok bytes.toList
  catch e =>
    return .error (readErrorOf e)

/-- Eight bytes of the system's randomness as a seed. -/
def systemSeed : IO UInt64 := do
  let bytes ← IO.getRandomBytes 8
  return bytes.toList.foldl (fun seed b => seed * 256 + b.toUInt64) 0

end ChipEight

open ChipEight in
/-- Carries out a command line. -/
def main (arguments : List String) : IO UInt32 := do
  match Request.ofArguments arguments with
  | .error e =>
    IO.eprintln s!"error: {e.message}"
    return 2
  | .ok .version =>
    IO.print versionText
    return 0
  | .ok (.start options) =>
    let report := options.report (← readContents options.path) (← systemSeed)
    for entry in report.log do
      IO.eprintln s!"[{entry.level.name}] {entry.message}"
    IO.print report.output
    match report.failure with
    | some reason =>
      IO.eprintln s!"Error: {reason}"
      return 1
    | none => return 0
