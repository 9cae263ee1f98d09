import PacketLog.Group.Config
import PacketLog.Record.Notes
import PacketLog.Session.Registry
import PacketLog.Transport.Basic

set_option autoImplicit false

/-! # Sessions

A `Session` is one connection to the kernel's logger, with the groups that are bound on it.
It tells the kernel what to log, by commands that the kernel acknowledges or declines, and
delivers the records that the kernel sends to the handlers of their groups. A command that
fails leaves the bound groups and their handlers as they were. The states of all handlers
together are the session's world. -/

namespace PacketLog

/-- Receives the records of a group. A negative answer halts the delivery. -/
abbrev Handler (ω : Type) := GroupHandle → GroupHeader → LogRecord → ω → Outcome ω Int32

/-- Where the numbers of sessions come from: each is given out once. -/
structure SessionNumbers where
  next : UInt64 := 1
  deriving DecidableEq, Inhabited

/-- A connection to the kernel's logger. -/
structure Session (τ ω : Type) where
  /-- The number of the session. -/
  number : UInt64
  transport : τ
  registry : Registry (Handler ω)
  /-- What the handlers share. -/
  world : ω

/-- How a delivery ended. -/
inductive Delivery where
  /-- Every record was delivered, or nobody waited for it. -/
  | continue
  /-- A handler answered with this negative number, and what came after it was not delivered. -/
  | halted (code : Int32)
  deriving DecidableEq, Inhabited

/-- Whether a handler ended the delivery. -/
def Delivery.isHalted : Delivery → Bool
  | «continue» => false
  | halted _ => true

namespace Session

variable {τ ω α : Type}

/-- Starts a session over a transport. -/
def start (numbers : SessionNumbers) (transport : τ) (world : ω) :
    Session τ ω × SessionNumbers :=
  ({ number := numbers.next, transport, registry := .new numbers.next, world },
    { next := numbers.next + 1 })

/-- Ends a session; its transport goes on. -/
def close (s : Session τ ω) : Outcome τ Unit :=
  { result := (), state := s.transport
    events := [.debug "closing session"
      [("session", .number s.number.toNat), ("groups", .number s.registry.size)]] }

/-- The handle of a bound group. -/
def find? (s : Session τ ω) (group : UInt16) : Option GroupHandle :=
  (s.registry.find? group).map GroupEntry.handle

/-- The bound groups in ascending order. -/
def groupList (s : Session τ ω) : List UInt16 := s.registry.groupList

/-- What the transport did, seen from the session. -/
def onTransport (s : Session τ ω) (o : Outcome τ (Except TransportError α)) :
    Outcome (Session τ ω) (Except SessionError α) :=
  (o.mapResult fun r => r.mapError .ofTransport).within fun t => { s with transport := t }

theorem result_onTransport_of_ok (s : Session τ ω) {o : Outcome τ (Except TransportError α)}
    {a : α} (h : o.result = .ok a) : (s.onTransport o).result = .ok a := by
  unfold onTransport
  rw [Outcome.result_within, Outcome.result_mapResult, h]
  rfl

theorem result_onTransport_of_error (s : Session τ ω)
    {o : Outcome τ (Except TransportError α)} {e : TransportError} (h : o.result = .error e) :
    (s.onTransport o).result = .error (.ofTransport e) := by
  unfold onTransport
  rw [Outcome.result_within, Outcome.result_mapResult, h]
  rfl

/-- What changes the registry alone. -/
def onRegistry (s : Session τ ω) (r : Except SessionError (α × Registry (Handler ω))) :
    Outcome (Session τ ω) (Except SessionError α) :=
  match r with
  | .ok (a, registry) => { result := .ok a, state := { s with registry } }
  | .error e => { result := .error e, state := s }

/-! ## Commands -/

section Commands

variable [Transport τ]

/-- Sends a command and waits for the kernel's verdict. -/
def command (c : GroupCommand) (s : Session τ ω) :
    Outcome (Session τ ω) (Except SessionError Unit) :=
  match c.encode with
  | .error e => { result := .error (.attr e), state := s }
  | .ok message =>
    (s.onTransport (Transport.request message s.transport)).after
      [.debug "sending config command" [("command", .word c.command.name),
        ("group", .number c.group.toNat), ("family", .number c.family.toNat)]]

/-- Becomes the logger of an address family. -/
def bindFamily (family : UInt8) (s : Session τ ω) :
    Outcome (Session τ ω) (Except SessionError Unit) :=
  s.command { command := .bindFamily, group := 0, family }

/-- Gives an address family up. -/
def unbindFamily (family : UInt8) (s : Session τ ω) :
    Outcome (Session τ ω) (Except SessionError Unit) :=
  s.command { command := .unbindFamily, group := 0, family }

/-- Enters an acknowledged group into the registry. -/
def register (group : UInt16) (s : Session τ ω) :
    Outcome (Session τ ω) (Except SessionError GroupHandle) :=
  (s.onRegistry (s.registry.insert group)).andThen fun handle s =>
    { result := .ok handle, state := s
      events := [.debug "registered group"
        [("group", .number group.toNat), ("session", .number s.number.toNat)]] }

/-- Subscribes to a group. It is bound only once the kernel has acknowledged it. -/
def bindGroup (group : UInt16) (s : Session τ ω) :
    Outcome (Session τ ω) (Except SessionError GroupHandle) :=
  match s.registry.find? group with
  | some _ => { result := .error (.conflict group), state := s }
  | none => (s.command { command := .bindGroup, group }).andThen fun _ s => s.register group

/-- Subscribes to a group and installs its handler. -/
def bindGroupWith (group : UInt16) (handler : Handler ω) (s : Session τ ω) :
    Outcome (Session τ ω) (Except SessionError GroupHandle) :=
  (s.bindGroup group).andThen fun handle s =>
    s.onRegistry ((s.registry.setHandler handle (some handler)).map fun r => (handle, r))

/-- Ends the subscription behind a handle. If the kernel declines, the group stays bound. -/
def unbindGroup (h : GroupHandle) (s : Session τ ω) :
    Outcome (Session τ ω) (Except SessionError Unit) :=
  match s.registry.resolve h with
  | .error e => { result := .error e, state := s }
  | .ok _ =>
    (s.command { command := .unbindGroup, group := h.group }).andThen fun _ s =>
      s.onRegistry ((s.registry.remove h).map fun (_, r) => ((), r))

/-- Installs the handler of a group. -/
def setCallback (h : GroupHandle) (handler : Handler ω) (s : Session τ ω) :
    Outcome (Session τ ω) (Except SessionError Unit) :=
  s.onRegistry ((s.registry.setHandler h (some handler)).map fun r => ((), r))

/-- Takes the handler of a group away. -/
def clearCallback (h : GroupHandle) (s : Session τ ω) :
    Outcome (Session τ ω) (Except SessionError Unit) :=
  s.onRegistry ((s.registry.setHandler h none).map fun r => ((), r))

/-- Sends a command for the group behind a handle. -/
def groupCommand (h : GroupHandle) (c : Command) (s : Session τ ω) :
    Outcome (Session τ ω) (Except SessionError Unit) :=
  match s.registry.resolve h with
  | .error e => { result := .error e, state := s }
  | .ok _ => s.command { command := c, group := h.group }

/-- How many batches the transport gets room for. -/
def bufferedBatches : Nat := 10

/-- The greatest size that a machine word holds. -/
def maxSize : Nat := 0xffffffffffffffff

/-- The size of a receive buffer that holds several batches; it stops at the greatest size. -/
def receiveBufferFor (bytes : UInt32) : Nat := min (bytes.toNat * bufferedBatches) maxSize

/-- Makes room for batches of a size: one receive has to hold one of them, and the kernel is
asked to keep several. If it declines that, all goes on. -/
def growTransport (h : GroupHandle) (bytes : UInt32) (s : Session τ ω) :
    Outcome (Session τ ω) (Except SessionError Unit) :=
  let wanted := receiveBufferFor bytes
  let reserved := Transport.reserveMessageSize bytes.toNat s.transport
  let resized := Transport.setReceiveBufferSize wanted reserved.state
  let complaint : List Event :=
    match resized.result with
    | .ok _ => []
    | .error e => [.warn "could not grow receive buffer"
        [("group", .number h.group.toNat), ("wanted", .number wanted),
          ("error", .shown e.message)]]
  { result := .ok (), state := { s with transport := resized.state }
    events := reserved.events ++ resized.events ++ complaint }

/-- Sets how many bytes a batch may have, and makes room for such batches once the kernel has
acknowledged it. -/
def setBufferSize (h : GroupHandle) (bytes : UInt32) (s : Session τ ω) :
    Outcome (Session τ ω) (Except SessionError Unit) :=
  (s.groupCommand h (.bufferSize bytes)).andThen fun _ s => s.growTransport h bytes

/-- Sets how much of each packet to copy. -/
def setMode (h : GroupHandle) (mode : CopyMode) (range : UInt32) (s : Session τ ω) :
    Outcome (Session τ ω) (Except SessionError Unit) :=
  s.groupCommand h (.mode mode range)

/-- Sets how long a batch may wait, in hundredths of a second. -/
def setTimeout (h : GroupHandle) (hundredths : UInt32) (s : Session τ ω) :
    Outcome (Session τ ω) (Except SessionError Unit) :=
  s.groupCommand h (.timeout hundredths)

/-- Sets how many records make a batch. -/
def setQueueThreshold (h : GroupHandle) (count : UInt32) (s : Session τ ω) :
    Outcome (Session τ ω) (Except SessionError Unit) :=
  s.groupCommand h (.queueThreshold count)

/-- Sets what is added to each record. -/
def setFlags (h : GroupHandle) (bits : UInt16) (s : Session τ ω) :
    Outcome (Session τ ω) (Except SessionError Unit) :=
  s.groupCommand h (.flags bits)

/-- Applies one command of a configuration. -/
def applyCommand (h : GroupHandle) (c : Command) (s : Session τ ω) :
    Outcome (Session τ ω) (Except SessionError Unit) :=
  match c with
  | .bufferSize bytes => s.setBufferSize h bytes
  | c => s.groupCommand h c

/-- Applies commands in order, up to the first that fails. -/
def applyCommands (h : GroupHandle) :
    List Command → Session τ ω → Outcome (Session τ ω) (Except SessionError Unit)
  | [], s => { result := .ok (), state := s }
  | c :: rest, s => (s.applyCommand h c).andThen fun _ s => applyCommands h rest s

/-- Applies a configuration to the group behind a handle, up to the first command that fails. -/
def applyConfig (h : GroupHandle) (config : GroupConfig) (s : Session τ ω) :
    Outcome (Session τ ω) (Except SessionError Unit) :=
  applyCommands h config.commands s

end Commands

/-! ## Delivery -/

/-- Delivers one record to the handler of its group. -/
def dispatch (m : Message) (s : Session τ ω) :
    Outcome (Session τ ω) (Except SessionError Delivery) :=
  match m.group with
  | .error e => { result := .error (.attr e), state := s }
  | .ok (header, attrs) =>
    match s.registry.find? header.group with
    | none => { result := .error (.noSubscriber header.group), state := s }
    | some entry =>
      match entry.handler with
      | none => { result := .error (.noCallback header.group), state := s }
      | some handler =>
        match LogRecord.parse attrs with
        | .error e =>
          { result := .error (.attr e), state := s, events := LogRecord.parseEvents attrs }
        | .ok record =>
          let answer := handler entry.handle header record s.world
          let events := LogRecord.parseEvents attrs ++ answer.events
          let s := { s with world := answer.state }
          if answer.result < 0 then
            { result := .ok (.halted answer.result), state := s
              events := events ++ [.debug "handler halted delivery"
                [("group", .number header.group.toNat), ("rc", .integer answer.result.toInt)]] }
          else
            { result := .ok .continue, state := s, events }

/-- Delivers the record in one message. -/
def handleMessage (bytes : Bytes) (s : Session τ ω) :
    Outcome (Session τ ω) (Except SessionError Delivery) :=
  match Message.parse bytes with
  | .error e => { result := .error (.attr e), state := s }
  | .ok m =>
    if m.header.kind = recordKind then s.dispatch m
    else { result := .error (.unexpectedMessage m.header.kind), state := s }

/-- The note of a message that is not a record. -/
def ignoredEvent (kind : UInt16) : Event :=
  if kind = MessageHeader.noopKind ∨ kind = MessageHeader.errorKind then
    .trace "ignoring control message" [("kind", .number kind.toNat)]
  else
    .debug "ignoring message of unexpected type" [("kind", .number kind.toNat)]

/-- Delivers the records among the items of a batch, up to its end, the first that is malformed,
or the first handler that halts. A record that nobody waits for is passed over. -/
def deliver : List (Except WireError Message) → Session τ ω →
    Outcome (Session τ ω) (Except SessionError Delivery)
  | [], s => { result := .ok .continue, state := s }
  | .error e :: _, s => { result := .error (.attr e), state := s }
  | .ok m :: rest, s =>
    if m.header.kind = recordKind then
      let o := s.dispatch m
      match o.result with
      | .ok .continue => (deliver rest o.state).after o.events
      | .ok (.halted code) => { o with result := .ok (.halted code) }
      | .error e =>
        if e.isRecoverable then
          (deliver rest o.state).after
            (o.events ++ [.debug "skipping log record" [("error", .shown e.message)]])
        else
          o
    else if m.header.kind = MessageHeader.doneKind then
      { result := .ok .continue, state := s }
    else
      (deliver rest s).after [ignoredEvent m.header.kind]

/-- Delivers the records of one batch. -/
def handlePacket (bytes : Bytes) (s : Session τ ω) :
    Outcome (Session τ ω) (Except SessionError Delivery) :=
  deliver (Message.split bytes) s

theorem transport_dispatch (m : Message) (s : Session τ ω) :
    (s.dispatch m).state.transport = s.transport := by
  simp only [dispatch]
  repeat' split
  all_goals rfl

theorem transport_deliver (items : List (Except WireError Message)) (s : Session τ ω) :
    (deliver items s).state.transport = s.transport := by
  induction items generalizing s with
  | nil => rfl
  | cons item rest ih =>
    cases item with
    | error e => rfl
    | ok m =>
      simp only [deliver]
      split
      · split
        · simp [ih, transport_dispatch]
        · simp [transport_dispatch]
        · split <;> simp [ih, transport_dispatch]
      · split
        · rfl
        · simp [ih]

/-- Delivery leaves the transport alone. -/
@[simp] theorem transport_handlePacket (bytes : Bytes) (s : Session τ ω) :
    (s.handlePacket bytes).state.transport = s.transport :=
  transport_deliver _ s

/-- Receives one batch and delivers it. -/
def processNext [Transport τ] (s : Session τ ω) :
    Outcome (Session τ ω) (Except SessionError Delivery) :=
  (s.onTransport (Transport.receive s.transport)).andThen fun bytes s => s.handlePacket bytes

/-- A successful step uses up some of what the transport can still bring. -/
theorem remaining_processNext_ok [FiniteTransport τ] {s : Session τ ω} {d : Delivery}
    (h : s.processNext.result = .ok d) :
    FiniteTransport.remaining s.processNext.state.transport <
      FiniteTransport.remaining s.transport := by
  unfold processNext at h ⊢
  cases hr : (Transport.receive s.transport).result with
  | error e =>
    have herr : (s.onTransport (Transport.receive s.transport)).result =
        .error (.ofTransport e) := result_onTransport_of_error s hr
    rw [Outcome.andThen_of_error herr] at h
    cases h
  | ok bytes =>
    have hok : (s.onTransport (Transport.receive s.transport)).result = .ok bytes :=
      result_onTransport_of_ok s hr
    rw [Outcome.andThen_of_ok hok]
    simpa [onTransport] using FiniteTransport.remaining_receive_ok hr

/-- So does a step that fails with an error after which there may be more to receive. -/
theorem remaining_processNext_transient [FiniteTransport τ] {s : Session τ ω}
    {e : TransportError} (h : s.processNext.result = .error (.transport e))
    (he : e.isTransient = true) :
    FiniteTransport.remaining s.processNext.state.transport <
      FiniteTransport.remaining s.transport := by
  unfold processNext at h ⊢
  cases hr : (Transport.receive s.transport).result with
  | error e' =>
    have herr : (s.onTransport (Transport.receive s.transport)).result =
        .error (.ofTransport e') := result_onTransport_of_error s hr
    rw [Outcome.andThen_of_error herr] at h ⊢
    have hsame : e' = e := by
      cases e' <;> simp [SessionError.ofTransport] at h <;> exact h
    subst hsame
    simpa [onTransport] using FiniteTransport.remaining_receive_transient hr he
  | ok bytes =>
    have hok : (s.onTransport (Transport.receive s.transport)).result = .ok bytes :=
      result_onTransport_of_ok s hr
    rw [Outcome.andThen_of_ok hok]
    simpa [onTransport] using FiniteTransport.remaining_receive_ok hr

/-- Receives and delivers until a handler halts, and gives its answer. A failure, the end of the
traffic among them, ends the run as well. -/
def run [FiniteTransport τ] (s : Session τ ω) :
    Outcome (Session τ ω) (Except SessionError Int32) :=
  let o := s.processNext
  match _ : o.result with
  | .error e => { result := .error e, state := o.state, events := o.events }
  | .ok (.halted code) => { result := .ok code, state := o.state, events := o.events }
  | .ok .continue => (run o.state).after o.events
termination_by FiniteTransport.remaining s.transport
decreasing_by exact remaining_processNext_ok (by assumption)

end Session

end PacketLog
