import PacketLog.Cli.Listen
import PacketLog.Group.ConfigText

set_option autoImplicit false

/-! # Running the program

`Environment` is what the program finds around it, and `run` is what it does there: a `Report` of
everything that it prints, notes and asks of the kernel, and of how it ends. -/

namespace PacketLog.Cli

/-- Why a file cannot be read. -/
inductive FileError where
  /-- It could not be opened. -/
  | «open» (error : OsError)
  /-- It was opened, but gave no bytes. -/
  | read (error : OsError)
  deriving DecidableEq, Inhabited

/-- The error behind it. -/
def FileError.cause : FileError → OsError
  | «open» error => error
  | read error => error

/-- What the program finds around it. -/
structure Environment where
  /-- The bytes on the standard input. -/
  input : Bytes
  /-- The bytes of the files. -/
  file : String → Except FileError Bytes
  kernel : Kernel
  /-- The number of the first request. -/
  seed : UInt32
  now : CalendarTime

/-- What a run did. -/
structure Report where
  /-- What happened, in order, without the notes that nobody asked for. -/
  events : List Event
  /-- How notes are printed. -/
  noteFormat : NoteFormat
  /-- The text of the failure that ended the run. -/
  failure : Option String
  code : Nat

/-- What was printed. -/
def Report.output (r : Report) : String :=
  String.join (r.events.map fun
    | .printed text => text ++ "\n"
    | _ => "")

/-! ## Commands -/

/-- The version of the program. -/
def versionText : String := "nflog 0.1.0"

/-- The lines of the extended version. -/
def extendedVersion : List String := [
  "name: nflog",
  "version: 0.1.0",
  "target: x86_64-unknown-linux-gnu",
  "target_os: linux",
  "target_arch: x86_64",
  "netlink: NETLINK_NETFILTER"]

/-- A run that only prints. -/
def printing (lines : List String) : Outcome Unit (Except Failure Unit) :=
  { result := .ok (), state := (), events := lines.map .printed }

/-- A run that fails at once. -/
def failing (f : Failure) : Outcome Unit (Except Failure Unit) :=
  { result := .error f, state := () }

/-- The batch that `decode` reads, from a file or from the standard input. -/
def decodeInput (env : Environment) (o : DecodeOptions) : Except Failure Bytes :=
  match o.path with
  | none => .ok env.input
  | some path => (env.file path).mapError fun e => .ofOs s!"failed reading {path}" e.cause

/-- Prints recorded traffic. -/
def decode (env : Environment) (format : OutputFormat) (o : DecodeOptions) :
    Outcome Unit (Except Failure Unit) :=
  match decodeInput env o with
  | .ok batch => Decode.run { format, flags := o.xmlFlags, now := env.now } o.groups batch
  | .error f => failing f

/-- The configuration that a file holds. -/
def configFile (env : Environment) (path : String) : Except Failure GroupConfig :=
  let invalid (reason : String) : Failure :=
    .because ExitCode.data s!"invalid config {path}" reason
  match env.file path with
  | .error (.open e) => .error (.ofOs s!"failed opening config {path}" e)
  | .error (.read e) => .error (invalid e.message)
  | .ok text => (GroupConfig.ofText text).mapError fun e => invalid e.message

/-- Prints live traffic. -/
def listen (env : Environment) (format : OutputFormat) (o : ListenOptions) :
    Outcome Unit (Except Failure Unit) :=
  let config : Except Failure GroupConfig :=
    match o.configFile with
    | none => .ok {}
    | some path => configFile env path
  match config with
  | .ok config =>
    Listen.run { format, flags := o.xmlFlags, now := env.now } o config env.kernel env.seed
  | .error f => failing f

/-- What a command does. -/
def Command.run (env : Environment) (format : OutputFormat) :
    Command → Outcome Unit (Except Failure Unit)
  | listen o => Cli.listen env format o
  | decode o => Cli.decode env format o
  | version o => printing (if o.extended then extendedVersion else [versionText])

/-! ## The program -/

/-- Whether an event is kept when notes below a level are not. -/
def isKept (level : Level) : Event → Bool
  | .note n => n.level.rank ≤ level.rank
  | _ => true

/-- What an invocation does. -/
def Invocation.run (env : Environment) (i : Invocation) : Report :=
  let o := i.command.run env i.format
  let events := o.events.filter (isKept i.level)
  match o.result with
  | .ok _ => { events, noteFormat := i.noteFormat, failure := none, code := ExitCode.success }
  | .error f => { events, noteFormat := i.noteFormat, failure := some f.message, code := f.code }

/-- How to call the program. -/
def helpText : String :=
  "usage: nflog [OPTIONS] listen --group GROUP[,GROUP...] [OPTIONS]\n" ++
  "       nflog [OPTIONS] decode [FILE] [--group GROUP[,GROUP...]] [OPTIONS]\n" ++
  "       nflog version [--extended]"

/-- What the program does with its arguments. -/
def run (env : Environment) (args : List String) : Report :=
  match Invocation.ofArguments args with
  | .ok i => i.run env
  | .error .version =>
    { events := [.printed versionText], noteFormat := .text, failure := none
      code := ExitCode.success }
  | .error .help =>
    { events := [.printed helpText], noteFormat := .text, failure := none
      code := ExitCode.success }
  | .error .usage =>
    { events := [], noteFormat := .text, failure := some ("wrong arguments\n" ++ helpText)
      code := ExitCode.arguments }

/-- The file that an invocation reads. -/
def Invocation.path? (i : Invocation) : Option String :=
  match i.command with
  | .listen o => o.configFile
  | .decode o => o.path
  | .version _ => none

/-- Whether an invocation reads the standard input. -/
def Invocation.readsInput (i : Invocation) : Bool :=
  match i.command with
  | .decode o => o.path.isNone
  | _ => false

end PacketLog.Cli
