import PacketLog.Cli.Decode
import PacketLog.Session.Basic
import PacketLog.Socket.Basic

set_option autoImplicit false

/-! # Printing live traffic

`listen` binds groups, configures them, and prints the records that the kernel sends, until enough
of them were printed or the connection breaks. A record that cannot be printed is passed over
with a note. -/

namespace PacketLog.Cli.Listen

/-- A session over a socket, in which the records that were printed are counted. -/
abbrev Live := Session Socket Nat

/-- How the socket is set up: a receive waits for half a second. -/
def socketConfig : SocketConfig := { readTimeout := some { sec := 0, nanos := 500000000 } }

/-- Prints a record, and halts the delivery once `count` records were printed. -/
def printer (p : Printing) (count : Option Nat) : Handler Nat :=
  fun _ header record printed =>
    match recordText header record p.format p.flags p.now with
    | .error f =>
      { result := 0, state := printed
        events := [.warn "could not print record"
          [("group", .number header.group.toNat), ("error", .shown f.message)]] }
    | .ok text =>
      let total := printed + 1
      { result := if count.any (· ≤ total) then -1 else 0, state := total
        events := [.printed text] }

/-- A step of a session, as part of what `context` says. -/
def step {α : Type} (context : String) (o : Outcome Live (Except SessionError α)) :
    Outcome Live (Except Failure α) :=
  o.mapResult fun r => r.mapError (.ofSession context)

/-- Becomes the logger of a family. It is given up before, which may fail. -/
def rebind (family : UInt8) (s : Live) : Outcome Live (Except Failure Unit) :=
  let o := s.unbindFamily family
  let complaint : List Event :=
    match o.result with
    | .ok _ => []
    | .error e => [.warn "unbind family failed"
        [("family", .number family.toNat), ("error", .shown e.message)]]
  (step "bind family failed" (o.state.bindFamily family)).after (o.events ++ complaint)

/-- Binds one group and configures it. -/
def bind (handler : Handler Nat) (config : GroupConfig) (group : UInt16) (s : Live) :
    Outcome Live (Except Failure Unit) :=
  (step s!"bind group {group} failed" (s.bindGroupWith group handler)).andThen fun handle s =>
    (step s!"configure group {group} failed" (s.applyConfig handle config)).andThen fun _ s =>
      { result := .ok (), state := s
        events := [.info "listening" [("group", .number group.toNat)]] }

/-- Binds groups in order. -/
def bindAll (handler : Handler Nat) (config : GroupConfig) :
    List UInt16 → Live → Outcome Live (Except Failure Unit)
  | [], s => { result := .ok (), state := s }
  | group :: rest, s =>
    (bind handler config group s).andThen fun _ s => bindAll handler config rest s

/-- Receives until the printer halts. A receive that timed out, or before which records were lost,
is made again. -/
def receive (s : Live) : Outcome Live (Except Failure Unit) :=
  let o := s.processNext
  match _ : o.result with
  | .ok .continue => (receive o.state).after o.events
  | .ok (.halted _) => { result := .ok (), state := o.state, events := o.events }
  | .error (.transport e) =>
    if _ : e.isTransient = true then
      let lost : List Event :=
        if e = .overrun then [.warn "records were dropped by the kernel" []] else []
      (receive o.state).after (o.events ++ lost)
    else
      { result := .error (.ofTransport "receive failed" e), state := o.state
        events := o.events }
  | .error e =>
    { result := .error (.ofSession "receive failed" e), state := o.state, events := o.events }
termination_by FiniteTransport.remaining s.transport
decreasing_by
  · exact Session.remaining_processNext_ok (by assumption)
  · exact Session.remaining_processNext_transient (by assumption) (by assumption)

/-- Listens on a session that was just started. -/
def onSession (p : Printing) (options : ListenOptions) (config : GroupConfig) (s : Live) :
    Outcome Live (Except Failure Unit) :=
  let rebound : Outcome Live (Except Failure Unit) :=
    if options.bindFamily then rebind options.family s else { result := .ok (), state := s }
  rebound.andThen fun _ s =>
    (bindAll (printer p options.count) config options.groups s).andThen fun _ s =>
      (receive s).andThen fun _ s =>
        { result := .ok (), state := s
          events := [.info "stopped" [("printed", .number s.world)]] }

/-- The configuration of the groups: what the file says, overridden by the options. -/
def groupConfig (options : ListenOptions) (fromFile : GroupConfig) : GroupConfig :=
  let flags := if options.flags = {} then none else some options.flags
  fromFile.merge { options.overrides with flags }

/-- Opens a socket and listens. The first request has the number `seed`. -/
def run (p : Printing) (options : ListenOptions) (fromFile : GroupConfig) (kernel : Kernel)
    (seed : UInt32) : Outcome Unit (Except Failure Unit) :=
  let opened := Socket.open kernel socketConfig seed
  match opened.result with
  | .error e =>
    { result := .error (.ofTransport "failed to open netlink socket" e), state := ()
      events := opened.events }
  | .ok socket =>
    let (session, _) := Session.start {} socket 0
    ((onSession p options (groupConfig options fromFile) session).within fun _ => ()).after
      opened.events

end PacketLog.Cli.Listen
