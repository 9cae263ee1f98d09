import PacketLog.Kernel.Basic
import PacketLog.Transport.Basic
import PacketLog.Transport.Reply

set_option autoImplicit false

/-! # The netlink socket

A `Socket` is the transport that speaks to the kernel. It numbers the requests that it sends
and waits for the verdict on each. Records that arrive meanwhile are kept, up to a limit, and
handed out by the next receives. A datagram is never cut: the room for it grows with the
longest that was seen. -/

namespace PacketLog

/-- How a socket is set up. -/
structure SocketConfig where
  /-- The size of the kernel's receive buffer, if it is to be changed. -/
  receiveBufferSize : Option Nat := none
  /-- How many bytes one receive has room for. -/
  maxMessageSize : Nat := 65536
  /-- How long a receive may wait, if not forever. -/
  readTimeout : Option Duration := none
  deriving DecidableEq, Inhabited

namespace SocketConfig

/-- Makes room for a datagram of `len` bytes. -/
def fit (c : SocketConfig) (len : Nat) : SocketConfig :=
  { c with maxMessageSize := max c.maxMessageSize len }

end SocketConfig

/-- A socket that is open. -/
structure Socket where
  kernel : Kernel
  /-- The address that the kernel gave the socket. -/
  address : UInt32
  /-- The number of the next request. -/
  nextSeq : UInt32
  /-- Datagrams that arrived while a request waited, in order. -/
  pending : List Bytes := []
  config : SocketConfig := {}

namespace Socket

variable {α : Type}

/-- What the kernel did, seen from the socket. -/
def onKernel (s : Socket) (o : Outcome Kernel (Except OsError α)) :
    Outcome Socket (Except TransportError α) :=
  (o.mapResult fun r => r.mapError .io).within fun k => { s with kernel := k }

/-! ## Options -/

/-- The greatest size that can be asked for. -/
def maxRequestedSize : Nat := 2147483647

/-- Asks for a receive buffer of a size, past the system's limit if that is allowed, and says what
was granted. -/
def setReceiveBufferSize (size : Nat) (s : Socket) :
    Outcome Socket (Except TransportError Nat) :=
  let requested := min size maxRequestedSize
  let forced := s.kernel.setBufferSize true requested
  let asked : Outcome Socket (Except TransportError Unit) :=
    match forced.result with
    | .ok _ => s.onKernel forced
    | .error e =>
      (s.onKernel (forced.state.setBufferSize false requested)).after
        (forced.events ++ [.debug "SO_RCVBUFFORCE refused, falling back to SO_RCVBUF"
          [("error", .shown e.message)]])
  asked.andThen fun _ s =>
    match s.kernel.readBufferSize with
    | .error e => { result := .error (.io e), state := s }
    | .ok value =>
      let granted := value.toNat
      { result := .ok granted, state := s
        events := if granted < size then
          [.warn "kernel granted a smaller receive buffer"
            [("requested", .number size), ("granted", .number granted)]] else [] }

/-- Sets how long a receive may wait. -/
def setReadTimeout (timeout : Option Duration) (s : Socket) :
    Outcome Socket (Except TransportError Unit) :=
  let time := (timeout.map TimeVal.ofDuration).getD .unlimited
  (s.onKernel (s.kernel.setTimeout time)).andThen fun _ s =>
    { result := .ok (), state := { s with config := { s.config with readTimeout := timeout } } }

/-- Applies the options of a configuration to a socket that was just bound. -/
def configure (s : Socket) : Outcome Socket (Except TransportError Unit) :=
  let resized : Outcome Socket (Except TransportError Unit) :=
    match s.config.receiveBufferSize with
    | none => { result := .ok (), state := s }
    | some size => (s.setReceiveBufferSize size).mapResult fun r => r.map fun _ => ()
  resized.andThen fun _ s =>
    match s.config.readTimeout with
    | none => { result := .ok (), state := s }
    | some timeout => s.setReadTimeout (some timeout)

/-- Opens a socket whose first request will have the number `seed`. -/
def «open» (kernel : Kernel) (config : SocketConfig) (seed : UInt32) :
    Outcome Kernel (Except TransportError Socket) :=
  let created := kernel.createSocket.mapResult fun r => r.mapError TransportError.open
  created.andThen fun _ kernel =>
    (kernel.bind.mapResult fun r => r.mapError TransportError.open).andThen fun _ kernel =>
      let o := ({ kernel, address := kernel.address, nextSeq := seed, config } : Socket).configure
      match o.result with
      | .error e => { result := .error e, state := o.state.kernel, events := o.events }
      | .ok _ =>
        { result := .ok o.state, state := o.state.kernel
          events := o.events ++ [.info "opened netfilter netlink socket"
            [("port_id", .number o.state.address.toNat)]] }

/-! ## Receiving -/

/-- The error of a call that failed to read. -/
def readError (e : OsError) : TransportError :=
  if e = .wouldBlock ∨ e = .connectionTimedOut then .timedOut
  else if e = .noBufferSpace then .overrun
  else .io e

/-- What there is to note about a call that failed to read. -/
def readErrorEvents (e : OsError) : List Event :=
  if e = .noBufferSpace then [.warn "netlink receive buffer overrun" []] else []

/-- The length of the next datagram. An interrupted call is made again. -/
def peekLength (k : Kernel) : Outcome Kernel (Except TransportError Nat) :=
  let o := k.peek
  match _ : o.result with
  | .ok n => { result := .ok n, state := o.state, events := o.events }
  | .error e =>
    if e = .interrupted then (peekLength o.state).after o.events
    else { result := .error (readError e), state := o.state
           events := o.events ++ readErrorEvents e }
termination_by k.backlog
decreasing_by exact Kernel.backlog_peek_of_error (by assumption)

/-- Reads the next datagram. An interrupted call is made again. -/
def readDatagram (room : Nat) (k : Kernel) : Outcome Kernel (Except TransportError Bytes) :=
  let o := k.read room
  match _ : o.result with
  | .ok bytes => { result := .ok bytes, state := o.state, events := o.events }
  | .error e =>
    if e = .interrupted then (readDatagram room o.state).after o.events
    else { result := .error (readError e), state := o.state
           events := o.events ++ readErrorEvents e }
termination_by k.backlog
decreasing_by exact Kernel.backlog_read_of_error (by assumption)

/-- The room that a buffer for `size` bytes has; no buffer is empty. -/
def roomFor (size : Nat) : Nat := if size = 0 then 64 else size

/-- Receives the next datagram as a whole: its length is asked for first. No bytes mean that
there is nothing more to come. -/
def receiveDatagram (s : Socket) : Outcome Socket (Except TransportError Bytes) :=
  let peeked := (peekLength s.kernel).within fun k => { s with kernel := k }
  peeked.andThen fun len s =>
    let before := s.config.maxMessageSize
    let config := s.config.fit len
    let grown : List Event :=
      if before < config.maxMessageSize then
        [.debug "grew receive size for a large batch"
          [("before", .number before), ("capacity", .number config.maxMessageSize)]] else []
    let read := (readDatagram (roomFor config.maxMessageSize) s.kernel).within
      fun k => { s with kernel := k, config }
    (read.after grown).mapResult fun r =>
      match r with
      | .ok [] => .error .closed
      | r => r

theorem backlog_peekLength (k : Kernel) :
    (∀ n, (peekLength k).result = .ok n → (peekLength k).state.backlog ≤ k.backlog) ∧
    (∀ e, (peekLength k).result = .error e → (peekLength k).state.backlog < k.backlog) := by
  fun_induction peekLength k with
  | case1 k o n h =>
    have hs : o.state = k := Kernel.backlog_peek_of_ok h
    simp [hs]
  | case2 k o h ih =>
    have hlt := Kernel.backlog_peek_of_error h
    refine ⟨fun n hn => ?_, fun e he => ?_⟩
    · exact Nat.le_of_lt (Nat.lt_of_le_of_lt (ih.1 n hn) hlt)
    · exact Nat.lt_trans (ih.2 e he) hlt
  | case3 k o e h hne =>
    have hlt := Kernel.backlog_peek_of_error h
    simpa using hlt

theorem backlog_readDatagram (room : Nat) (k : Kernel) :
    (∀ b bytes, (readDatagram room k).result = .ok (b :: bytes) →
      (readDatagram room k).state.backlog < k.backlog) ∧
    (∀ e, (readDatagram room k).result = .error e →
      (readDatagram room k).state.backlog < k.backlog) := by
  fun_induction readDatagram room k with
  | case1 k o bytes h =>
    refine ⟨fun b bs hb => ?_, by simp⟩
    simp only [Except.ok.injEq] at hb
    exact Kernel.backlog_read_of_ok (h.trans (congrArg Except.ok hb))
  | case2 k o h ih =>
    have hlt := Kernel.backlog_read_of_error h
    exact ⟨fun b bs hb => Nat.lt_trans (ih.1 b bs hb) hlt,
      fun e he => Nat.lt_trans (ih.2 e he) hlt⟩
  | case3 k o e h hne =>
    have hlt := Kernel.backlog_read_of_error h
    simpa using hlt

/-- A receive uses up some of what waits to be read, unless it finds that there is nothing. -/
theorem backlog_receiveDatagram (s : Socket) :
    (∀ bytes, s.receiveDatagram.result = .ok bytes →
      s.receiveDatagram.state.kernel.backlog < s.kernel.backlog) ∧
    (∀ e, s.receiveDatagram.result = .error e → e ≠ .closed →
      s.receiveDatagram.state.kernel.backlog < s.kernel.backlog) := by
  have hpeek := backlog_peekLength s.kernel
  unfold receiveDatagram
  cases hp : (peekLength s.kernel).result with
  | error e =>
    have herr : ((peekLength s.kernel).within
        fun k => ({ s with kernel := k } : Socket)).result = .error e := by simpa using hp
    simp only [Outcome.andThen_of_error herr]
    refine ⟨by simp, fun _ _ _ => ?_⟩
    simpa using hpeek.2 e hp
  | ok len =>
    have hok : ((peekLength s.kernel).within
        fun k => ({ s with kernel := k } : Socket)).result = .ok len := by simpa using hp
    have hle := hpeek.1 len hp
    simp only [Outcome.andThen_of_ok hok, Outcome.result_after, Outcome.state_after,
      Outcome.result_mapResult, Outcome.state_mapResult, Outcome.result_within,
      Outcome.state_within]
    have hread := backlog_readDatagram
      (roomFor (s.config.fit len).maxMessageSize) (peekLength s.kernel).state
    generalize readDatagram (roomFor (s.config.fit len).maxMessageSize)
      (peekLength s.kernel).state = o at hread ⊢
    cases hr : o.result with
    | error e =>
      refine ⟨by simp, fun e' he' _ => ?_⟩
      exact Nat.lt_of_lt_of_le (hread.2 e hr) hle
    | ok bytes =>
      cases bytes with
      | nil =>
        refine ⟨by simp, fun e' he' hne => ?_⟩
        simp only [Except.error.injEq] at he'
        exact absurd he'.symm hne
      | cons b bs =>
        exact ⟨fun _ _ => Nat.lt_of_lt_of_le (hread.1 b bs hr) hle, by simp⟩

/-! ## Requests -/

/-- How many datagrams are kept while a request waits. -/
def maxPending : Nat := 256

/-- Keeps a datagram for a later receive. If there is no room for it, the oldest gives way. -/
def keep (datagram : Bytes) (s : Socket) : Outcome Socket Unit :=
  if maxPending ≤ s.pending.length then
    { result := (), state := { s with pending := s.pending.tail ++ [datagram] }
      events := [.warn "dropping oldest queued datagram while waiting for an ack"
        [("limit", .number maxPending)]] }
  else
    { result := (), state := { s with pending := s.pending ++ [datagram] } }

@[simp] theorem kernel_keep (datagram : Bytes) (s : Socket) :
    (s.keep datagram).state.kernel = s.kernel := by
  unfold keep; split <;> rfl

/-- Receives until the verdict on the request with number `seq` has come. Verdicts on other
requests are dropped, and anything else is kept. -/
def awaitVerdict (seq : UInt32) (s : Socket) : Outcome Socket (Except TransportError Unit) :=
  let o := s.receiveDatagram
  match _ : o.result with
  | .error e => { result := .error e, state := o.state, events := o.events }
  | .ok datagram =>
    match Reply.classify datagram seq with
    | .error e => { result := .error e, state := o.state, events := o.events }
    | .ok .ack => { result := .ok (), state := o.state, events := o.events }
    | .ok (.rejected code) =>
      { result := .error (.rejected code), state := o.state
        events := o.events ++ [.debug "netlink request rejected"
          [("seq", .number seq.toNat), ("code", .integer code.toInt)]] }
    | .ok (.stale got) =>
      (awaitVerdict seq o.state).after (o.events ++
        [.debug "dropping stale acknowledgement"
          [("expected", .number seq.toNat), ("got", .number got.toNat)]])
    | .ok .unrelated =>
      let kept := o.state.keep datagram
      (awaitVerdict seq kept.state).after (o.events ++ kept.events)
termination_by s.kernel.backlog
decreasing_by
  · exact (backlog_receiveDatagram s).1 datagram (by assumption)
  · simpa using (backlog_receiveDatagram s).1 datagram (by assumption)

/-- Sends a message. An interrupted call is made again. -/
def sendMessage (bytes : Bytes) (k : Kernel) : Outcome Kernel (Except TransportError Unit) :=
  let o := k.send bytes
  match _ : o.result with
  | .ok _ => { result := .ok (), state := o.state, events := o.events }
  | .error e =>
    if e = .interrupted then (sendMessage bytes o.state).after o.events
    else { result := .error (.io e), state := o.state, events := o.events }
termination_by k.sendErrors.length
decreasing_by
  rename_i h _
  simp only [o, Kernel.send] at h ⊢
  split at h
  · rename_i hs
    simp [hs]
  · cases h

/-- Sends a request under the next number and waits for the verdict on it. A request that is too
short to bear a number is not sent, but has used the number up. -/
def request (message : Bytes) (s : Socket) : Outcome Socket (Except TransportError Unit) :=
  let seq := s.nextSeq
  let s := { s with nextSeq := seq + 1 }
  match MessageHeader.stamp message seq with
  | .error e => { result := .error (.malformed e), state := s }
  | .ok bytes =>
    ((sendMessage bytes s.kernel).within fun k => { s with kernel := k }).andThen fun _ s =>
      (s.awaitVerdict seq).after [.debug "sent netlink request"
        [("seq", .number seq.toNat), ("len", .number bytes.length)]]

/-- The next datagram: one that was kept, or else one from the kernel. -/
def receive (s : Socket) : Outcome Socket (Except TransportError Bytes) :=
  match s.pending with
  | datagram :: rest => { result := .ok datagram, state := { s with pending := rest } }
  | [] => s.receiveDatagram

/-- Makes sure that one receive has room for `size` bytes. -/
def reserveMessageSize (size : Nat) (s : Socket) : Outcome Socket Unit :=
  let config := s.config.fit size
  { result := (), state := { s with config }
    events := [.debug "receive size reserved"
      [("requested", .number size), ("size", .number config.maxMessageSize)]] }

/-- A receive from the kernel keeps nothing. -/
theorem pending_receiveDatagram (s : Socket) :
    s.receiveDatagram.state.pending = s.pending := by
  unfold receiveDatagram Outcome.andThen
  dsimp only
  split <;> rfl

instance : FiniteTransport Socket where
  request := request
  receive := receive
  setReceiveBufferSize := setReceiveBufferSize
  reserveMessageSize := reserveMessageSize
  remaining s := s.pending.length + s.kernel.backlog
  remaining_receive_ok {s bytes} h := by
    simp only [receive] at h ⊢
    split at h
    · rename_i hp
      simp [hp]
    · have := (backlog_receiveDatagram s).1 bytes h
      rw [pending_receiveDatagram]
      omega
  remaining_receive_transient {s e} h he := by
    simp only [receive] at h ⊢
    split at h
    · cases h
    · have hne : e ≠ .closed := fun hc => by subst hc; simp [TransportError.isTransient] at he
      have := (backlog_receiveDatagram s).2 e h hne
      rw [pending_receiveDatagram]
      omega

end Socket

end PacketLog
