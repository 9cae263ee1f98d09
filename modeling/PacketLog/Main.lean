import PacketLog.Cli.Run
import Std.Time.Zoned

set_option autoImplicit false

/-! # The program

Reads what a run needs, runs it, and shows the report. There is no socket to the kernel here, so a
run that listens reports that the protocol is not supported. -/

namespace PacketLog.Cli

/-- The error number behind a failed system call. -/
def osError : IO.Error → OsError
  | .alreadyExists _ code _ => ⟨code.toInt32⟩
  | .otherError code _ => ⟨code.toInt32⟩
  | .resourceBusy code _ => ⟨code.toInt32⟩
  | .resourceVanished code _ => ⟨code.toInt32⟩
  | .unsupportedOperation code _ => ⟨code.toInt32⟩
  | .hardwareFault code _ => ⟨code.toInt32⟩
  | .unsatisfiedConstraints code _ => ⟨code.toInt32⟩
  | .illegalOperation code _ => ⟨code.toInt32⟩
  | .protocolError code _ => ⟨code.toInt32⟩
  | .timeExpired code _ => ⟨code.toInt32⟩
  | .interrupted _ code _ => ⟨code.toInt32⟩
  | .noFileOrDirectory _ code _ => ⟨code.toInt32⟩
  | .invalidArgument _ code _ => ⟨code.toInt32⟩
  | .permissionDenied _ code _ => ⟨code.toInt32⟩
  | .resourceExhausted _ code _ => ⟨code.toInt32⟩
  | .inappropriateType _ code _ => ⟨code.toInt32⟩
  | .noSuchThing _ code _ => ⟨code.toInt32⟩
  | .unexpectedEof => .inputOutput
  | .userError _ => .inputOutput

/-- Reads a file. -/
def readFile (path : String) : IO (Except FileError Bytes) := do
  match ← (IO.FS.Handle.mk path .read).toBaseIO with
  | .error e => return .error (.open (osError e))
  | .ok file =>
    match ← file.readBinToEnd.toBaseIO with
    | .error e => return .error (.read (osError e))
    | .ok bytes => return .ok bytes.data.toList

/-- The time on the clock, in universal time if the local zone is not known. -/
def clock : IO CalendarTime := do
  let time ← match ← Std.Time.PlainDateTime.now.toBaseIO with
    | .ok time => pure time
    | .error _ =>
      pure (Std.Time.PlainDateTime.ofWallTime (.ofTimestamp (← Std.Time.Timestamp.now) .zero))
  return { year := time.year.toInt, month := time.month.toNat, day := time.day.toNat
           hour := time.hour.toNat, minute := time.minute.toNat, second := time.second.toNat }

/-- Gathers what a run with some arguments needs. -/
def environment (args : List String) : IO Environment := do
  let invocation := (Invocation.ofArguments args).toOption
  let file ← match invocation.bind Invocation.path? with
    | some path => readFile path
    | none => pure (.error (.open .noEntry))
  let input ← if invocation.any Invocation.readsInput then
      (·.data.toList) <$> (← IO.getStdin).readBinToEnd
    else pure []
  let now ← clock
  return { input, file := fun _ => file, kernel := { socketError := some .protocolNotSupported }
           seed := .ofNat (← IO.monoMsNow), now }

/-- Shows what happened. -/
def present (report : Report) : IO Unit := do
  let output ← IO.getStdout
  let errors ← IO.getStderr
  for event in report.events do
    match event with
    | .printed text => output.putStrLn text
    | .note n =>
      match report.noteFormat with
      | .text => errors.putStrLn n.line
      | .json => errors.putStrLn n.toJson.render
    | .call _ => pure ()
  if let some text := report.failure then errors.putStrLn ("error: " ++ text)

end PacketLog.Cli

/-- Runs the program and gives its exit code. -/
def main (args : List String) : IO UInt32 := do
  let report := PacketLog.Cli.run (← PacketLog.Cli.environment args) args
  PacketLog.Cli.present report
  return .ofNat report.code
