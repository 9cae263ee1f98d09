import PacketLog.Cli.Options
import PacketLog.Group.Config
import PacketLog.Journal
import PacketLog.Text.Separated
import PacketLog.Xml.Flags

set_option autoImplicit false

/-! # What the arguments ask for

An `Invocation` is a command with its parameters, the format of records and the choice of
notes. Options that every command knows may stand before the command or after it; what stands
after it wins. -/

namespace PacketLog.Cli

/-- How a record is printed. -/
inductive OutputFormat where
  | json
  | table
  | pretty
  | xml
  deriving DecidableEq, Inhabited

/-- How a note is printed. -/
inductive NoteFormat where
  | text
  | json
  deriving DecidableEq, Inhabited

/-- The options that every command knows. -/
structure CommonOptions where
  format : Option OutputFormat := none
  noteFormat : Option NoteFormat := none
  level : Option Level := none
  deriving DecidableEq, Inhabited

/-- `c` with what `other` sets replaced by it. -/
def CommonOptions.merge (c other : CommonOptions) : CommonOptions :=
  { format := other.format.or c.format
    noteFormat := other.noteFormat.or c.noteFormat
    level := other.level.or c.level }

/-- The parameters of `listen`. -/
structure ListenOptions where
  common : CommonOptions := {}
  groups : List UInt16 := []
  family : UInt8 := 2
  /-- Whether to become the logger of the family first. -/
  bindFamily : Bool := true
  /-- The file that holds the groups' configuration. -/
  configFile : Option String := none
  /-- What overrides the file, except for the switches. -/
  overrides : GroupConfig := {}
  /-- The switches, which override the file's all at once if one of them is given. -/
  flags : LogFlags := {}
  /-- How many records to print before the end. -/
  count : Option Nat := none
  xmlFlags : XmlFlags := .all
  deriving DecidableEq, Inhabited

/-- The parameters of `decode`. -/
structure DecodeOptions where
  common : CommonOptions := {}
  /-- The file to read, if not the standard input. -/
  path : Option String := none
  /-- The groups whose records are printed, if not all. -/
  groups : Option (List UInt16) := none
  xmlFlags : XmlFlags := .all
  deriving DecidableEq, Inhabited

/-- The parameters of `version`. -/
structure VersionOptions where
  common : CommonOptions := {}
  extended : Bool := false
  deriving DecidableEq, Inhabited

/-- What to do. -/
inductive Command where
  | listen (options : ListenOptions)
  | decode (options : DecodeOptions)
  | version (options : VersionOptions)
  deriving DecidableEq, Inhabited

/-- A command, and how its output looks. -/
structure Invocation where
  format : OutputFormat
  noteFormat : NoteFormat
  /-- The least important level of notes that are printed. -/
  level : Level
  command : Command
  deriving DecidableEq, Inhabited

/-! ## Values -/

/-- The number that some digits spell, at least one. -/
def digits? (cs : List Char) : Option Nat :=
  if cs.isEmpty || cs.any (!·.isDigit) then none
  else some (cs.foldl (fun n c => n * 10 + (c.toNat - '0'.toNat)) 0)

/-- A number up to `max`. A sign is allowed, so that zero can be written as below zero. -/
def number? (max : Nat) (s : String) : Option Nat :=
  let inRange (n : Nat) : Option Nat := if n ≤ max then some n else none
  match s.toList with
  | '+' :: cs => (digits? cs).bind inRange
  | '-' :: cs => (digits? cs).bind fun n => if n = 0 then some 0 else none
  | cs => (digits? cs).bind inRange

/-- A count of eight bytes, which is not written with a minus sign. -/
def count? (s : String) : Option Nat :=
  if s.startsWith "-" then none else number? 0xffffffffffffffff s

/-- A list of groups between commas. -/
def groups? (s : String) : Option (List UInt16) :=
  ((Text.pieces ',' s.toList).mapM fun piece => number? 0xffff (String.ofList piece)).map
    (·.map UInt16.ofNat)

/-- The name of a file, which is not empty. -/
def path? (s : String) : Option String := if s.isEmpty then none else some s

/-! ## Options -/

variable {σ α : Type}

/-- An option whose value is read and then set. -/
def valueOption (name : String) (read : String → Option α) (set : α → σ → σ) : Opt σ :=
  { name, effect := .value fun s => (read s).map set }

/-- An option whose value is one of some names. -/
def choiceOption (name : String) (choices : List (String × α)) (set : α → σ → σ) : Opt σ :=
  valueOption name (fun s => choices.lookup s) set

/-- An option that is a number of four bytes. -/
def wordOption (name : String) (set : UInt32 → σ → σ) : Opt σ :=
  valueOption name (fun s => (number? 0xffffffff s).map UInt32.ofNat) set

/-- An option without a value. -/
def switchOption (name : String) (change : σ → σ) : Opt σ := { name, effect := .switch change }

/-- The option for groups. -/
def groupOption (add : List UInt16 → σ → σ) : Opt σ :=
  { valueOption "group" groups? add with letter := some 'g', repeatable := true }

/-- The option for the fields of a document. -/
def xmlFlagsOption (set : XmlFlags → σ → σ) : Opt σ :=
  valueOption "xml-flags" (fun s => (XmlFlags.parse s).toOption) set

/-- The options that every command knows, on a state that holds them. -/
def commonOptions (update : (CommonOptions → CommonOptions) → σ → σ) : List (Opt σ) := [
  choiceOption "format"
    [("json", .json), ("table", .table), ("pretty", .pretty), ("xml", .xml)]
    fun v => update fun c => { c with format := some v },
  choiceOption "log-format" [("text", .text), ("json", .json)]
    fun v => update fun c => { c with noteFormat := some v },
  choiceOption "log-level"
    [("error", .error), ("warn", .warn), ("info", .info), ("debug", .debug), ("trace", .trace)]
    fun v => update fun c => { c with level := some v },
  { name := "help", letter := some 'h', effect := .stop .help }]

/-- The options before the command. -/
def topOptions : List (Opt CommonOptions) :=
  { name := "version", letter := some 'V', effect := .stop .version } ::
    commonOptions fun f => f

def listenOptions : List (Opt ListenOptions) :=
  let override (change : GroupConfig → GroupConfig) (o : ListenOptions) : ListenOptions :=
    { o with overrides := change o.overrides }
  let switch (change : LogFlags → LogFlags) (o : ListenOptions) : ListenOptions :=
    { o with flags := change o.flags }
  [groupOption fun v o => { o with groups := o.groups ++ v },
    valueOption "family" (fun s => (number? 0xff s).map UInt8.ofNat)
      fun v o => { o with family := v },
    switchOption "no-bind-family" fun o => { o with bindFamily := false },
    valueOption "config" path? fun v o => { o with configFile := some v },
    valueOption "copy-mode" CopyMode.ofName?
      fun v => override fun c => { c with copyMode := some v },
    wordOption "copy-range" fun v => override fun c => { c with copyRange := some v },
    wordOption "timeout" fun v => override fun c => { c with timeout := some v },
    wordOption "qthresh" fun v => override fun c => { c with queueThreshold := some v },
    wordOption "buffer-size" fun v => override fun c => { c with bufferSize := some v },
    switchOption "seq" (switch fun f => { f with seq := true }),
    switchOption "seq-global" (switch fun f => { f with seqGlobal := true }),
    switchOption "conntrack" (switch fun f => { f with conntrack := true }),
    valueOption "count" count? fun v o => { o with count := some v },
    xmlFlagsOption fun v o => { o with xmlFlags := v }] ++
  commonOptions fun f o => { o with common := f o.common }

def decodeOptions : List (Opt DecodeOptions) :=
  [groupOption fun v o => { o with groups := some (o.groups.getD [] ++ v) },
    xmlFlagsOption fun v o => { o with xmlFlags := v }] ++
  commonOptions fun f o => { o with common := f o.common }

def versionOptions : List (Opt VersionOptions) :=
  switchOption "extended" (fun o => { o with extended := true }) ::
    commonOptions fun f o => { o with common := f o.common }

/-! ## Commands -/

/-- The parameters of a command without words. -/
def readAll (options : List (Opt σ)) (word : String → σ → Except Stop σ) (default : σ)
    (args : List String) : Except Stop σ :=
  (Options.read options (some word) args { state := default }).map fun (s, _) => s.state

/-- Refuses a word. -/
def noWord (_ : String) (_ : σ) : Except Stop σ := .error .usage

/-- Takes a word as the file to decode; there is only one. -/
def pathWord (word : String) (o : DecodeOptions) : Except Stop DecodeOptions :=
  match o.path, path? word with
  | none, some path => .ok { o with path := some path }
  | _, _ => .error .usage

/-- The names of the commands. -/
def commandNames : List String := ["listen", "decode", "version", "help"]

/-- Reads a command, with the options that every command knows. -/
def readCommand (name : String) (args : List String) : Except Stop (Command × CommonOptions) :=
  match name with
  | "listen" => do
    let o ← readAll listenOptions noWord {} args
    if o.groups.isEmpty then throw .usage
    return (.listen o, o.common)
  | "decode" => do
    let o ← readAll decodeOptions pathWord {} args
    return (.decode o, o.common)
  | "version" => do
    let o ← readAll versionOptions noWord {} args
    return (.version o, o.common)
  | "help" =>
    if args.length ≤ 1 ∧ args.all commandNames.contains then .error .help else .error .usage
  | _ => .error .usage

/-- Reads the arguments of the program. Records are printed as JSON and notes as text unless asked
otherwise, and no note below `info`. -/
def Invocation.ofArguments (args : List String) : Except Stop Invocation := do
  let (top, rest) ← Options.read topOptions none args { state := {} }
  match rest with
  | [] => throw .usage
  | name :: args =>
    let (command, own) ← readCommand name args
    let common := top.state.merge own
    return { format := common.format.getD .json, noteFormat := common.noteFormat.getD .text
             level := common.level.getD .info, command }

end PacketLog.Cli
