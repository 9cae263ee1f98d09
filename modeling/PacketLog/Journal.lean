import PacketLog.Json.Value
import PacketLog.Kernel.Call

set_option autoImplicit false

/-! # What a run leaves behind

A run of the program prints lines, notes what it does for whoever watches it, and calls the
kernel. These events are kept in the order in which they happen: an operation on a state
gives an `Outcome`, which is its result, the state after it and its events. -/

namespace PacketLog

/-! ## Notes -/

/-- How much a note matters, the most important first. -/
inductive Level where
  | error
  | warn
  | info
  | debug
  | trace
  deriving DecidableEq, Inhabited

namespace Level

def name : Level → String
  | error => "ERROR"
  | warn => "WARN"
  | info => "INFO"
  | debug => "DEBUG"
  | trace => "TRACE"

/-- The rank of a level; more important levels have lower ranks. -/
def rank : Level → Nat
  | error => 0
  | warn => 1
  | info => 2
  | debug => 3
  | trace => 4

end Level

/-- The value of a note's field. -/
inductive NoteValue where
  | number (n : Nat)
  | integer (n : Int)
  /-- A word, which is quoted on a line. -/
  | word (s : String)
  /-- A text that stands for itself. -/
  | shown (s : String)
  deriving DecidableEq, Inhabited

/-- Something to tell whoever watches a run. -/
structure Note where
  level : Level
  message : String
  fields : List (String × NoteValue) := []
  deriving DecidableEq, Inhabited

namespace Note

/-- The value of a field on a line. -/
def valueText : NoteValue → String
  | .number n => toString n
  | .integer n => toString n
  | .word s => "\"" ++ s ++ "\""
  | .shown s => s

/-- The note on one line. -/
def line (n : Note) : String :=
  n.level.name ++ " " ++ n.message ++
    String.join (n.fields.map fun (name, value) => " " ++ name ++ "=" ++ valueText value)

/-- The value of a field in JSON. -/
def valueJson : NoteValue → JsonValue
  | .number n => .ofNat n
  | .integer n => .number n
  | .word s => .text s
  | .shown s => .text s

/-- The note as JSON. -/
def toJson (n : Note) : JsonValue :=
  .object [("level", .text n.level.name),
    ("fields", .object (("message", .text n.message) ::
      n.fields.map fun (name, value) => (name, valueJson value)))]

end Note

/-! ## Events -/

/-- Something that happened in a run. -/
inductive Event where
  /-- A text was printed, on lines of its own. -/
  | printed (text : String)
  | note (n : Note)
  | call (c : KernelCall)
  deriving DecidableEq, Inhabited

namespace Event

/-- The calls to the kernel among some events. -/
def calls (events : List Event) : List KernelCall :=
  events.filterMap fun
    | call c => some c
    | _ => none

def error (message : String) (fields : List (String × NoteValue)) : Event :=
  note { level := .error, message, fields }

def warn (message : String) (fields : List (String × NoteValue)) : Event :=
  note { level := .warn, message, fields }

def info (message : String) (fields : List (String × NoteValue)) : Event :=
  note { level := .info, message, fields }

def debug (message : String) (fields : List (String × NoteValue)) : Event :=
  note { level := .debug, message, fields }

def trace (message : String) (fields : List (String × NoteValue)) : Event :=
  note { level := .trace, message, fields }

end Event

/-! ## Outcomes -/

/-- What an operation on a state gives. -/
structure Outcome (σ α : Type) where
  result : α
  /-- The state after the operation. -/
  state : σ
  /-- What happened, in order. -/
  events : List Event := []

namespace Outcome

variable {σ τ ε α β : Type}

/-- The same outcome, with events that happened before. -/
def after (o : Outcome σ α) (earlier : List Event) : Outcome σ α :=
  { o with events := earlier ++ o.events }

/-- Goes on after a success; a failure stands as the result of the whole. -/
def andThen (o : Outcome σ (Except ε α)) (next : α → σ → Outcome σ (Except ε β)) :
    Outcome σ (Except ε β) :=
  match o.result with
  | .ok a => (next a o.state).after o.events
  | .error e => { result := .error e, state := o.state, events := o.events }

/-- The same operation, seen on a larger state. -/
def within (o : Outcome σ α) (place : σ → τ) : Outcome τ α :=
  { result := o.result, state := place o.state, events := o.events }

/-- The outcome with another result. -/
def mapResult (o : Outcome σ α) (f : α → β) : Outcome σ β :=
  { result := f o.result, state := o.state, events := o.events }

@[simp] theorem result_after (o : Outcome σ α) (earlier : List Event) :
    (o.after earlier).result = o.result := rfl

@[simp] theorem state_after (o : Outcome σ α) (earlier : List Event) :
    (o.after earlier).state = o.state := rfl

@[simp] theorem events_after (o : Outcome σ α) (earlier : List Event) :
    (o.after earlier).events = earlier ++ o.events := rfl

@[simp] theorem result_within (o : Outcome σ α) (place : σ → τ) :
    (o.within place).result = o.result := rfl

@[simp] theorem state_within (o : Outcome σ α) (place : σ → τ) :
    (o.within place).state = place o.state := rfl

@[simp] theorem events_within (o : Outcome σ α) (place : σ → τ) :
    (o.within place).events = o.events := rfl

@[simp] theorem result_mapResult (o : Outcome σ α) (f : α → β) :
    (o.mapResult f).result = f o.result := rfl

@[simp] theorem state_mapResult (o : Outcome σ α) (f : α → β) :
    (o.mapResult f).state = o.state := rfl

@[simp] theorem events_mapResult (o : Outcome σ α) (f : α → β) :
    (o.mapResult f).events = o.events := rfl

theorem andThen_of_ok {o : Outcome σ (Except ε α)} {a : α} (h : o.result = .ok a)
    (next : α → σ → Outcome σ (Except ε β)) :
    o.andThen next = (next a o.state).after o.events := by
  simp [andThen, h]

theorem andThen_of_error {o : Outcome σ (Except ε α)} {e : ε} (h : o.result = .error e)
    (next : α → σ → Outcome σ (Except ε β)) :
    o.andThen next = { result := .error e, state := o.state, events := o.events } := by
  simp [andThen, h]

end Outcome

end PacketLog
