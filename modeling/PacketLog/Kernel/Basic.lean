import PacketLog.Journal
import PacketLog.Wire.Message

set_option autoImplicit false

/-! # The kernel's end of a socket

A `Kernel` says how every call of one socket will be answered: which calls fail, which
datagrams wait to be read, and what arrives in answer to each message that is sent. The
datagrams are read in the order in which they arrive, each as a whole if there is room for
it. -/

namespace PacketLog

/-- Something that waits to be read from a socket. -/
inductive Arrival where
  /-- A datagram. It can be read once the read calls have failed with `faults`, in order. -/
  | datagram (bytes : Bytes) (faults : List OsError := [])
  /-- The next call that reads fails. -/
  | failure (error : OsError)
  deriving DecidableEq, Inhabited

/-- How many calls it takes to use up an arrival. -/
def Arrival.calls : Arrival → Nat
  | .datagram _ faults => faults.length + 1
  | .failure _ => 1

/-- How the kernel answers a message. -/
inductive Answer where
  /-- Something arrives that has nothing to do with the message. -/
  | arrival (a : Arrival)
  /-- A verdict arrives, on the message whose number is larger by `distance`. -/
  | verdict (code : Int32) (distance : UInt32)
  deriving DecidableEq, Inhabited

/-- How the calls of one socket are answered. -/
structure Kernel where
  socketError : Option OsError := none
  bindError : Option OsError := none
  /-- The address that the socket is bound to. -/
  address : UInt32 := 4242
  /-- What waits to be read. -/
  queue : List Arrival := []
  /-- The answers to the next messages; those beyond them are accepted. -/
  answers : List (List Answer) := []
  /-- How the next calls that send fail, if they do. -/
  sendErrors : List (Option OsError) := []
  forceError : Option OsError := none
  bufferError : Option OsError := none
  timeoutError : Option OsError := none
  bufferReadError : Option OsError := none
  /-- What the size of the receive buffer is said to be, whatever was asked for. -/
  granted : Option Int := none
  /-- The size of the receive buffer that was set last. -/
  bufferSize : Int := 212992
  /-- How long a read may wait. -/
  timeout : TimeVal := .unlimited

namespace Kernel

/-- The protocol number of netfilter. -/
def netfilterProtocol : Nat := 12

/-- The sender in the header that a verdict echoes. -/
def echoedAddress : UInt32 := 0x4b434121

/-- A verdict on the message with number `seq`. -/
def verdict (code : Int32) (seq : UInt32) : Bytes :=
  ({ len := 36, kind := MessageHeader.errorKind } : MessageHeader).encode ++
    Bytes.le 4 code.toUInt32.toNat ++
    ({ len := 24, seq, pid := echoedAddress } : MessageHeader).encode

/-- What arrives as an answer to the message with number `seq`. -/
def arrivalFor (seq : UInt32) : Answer → Arrival
  | .arrival a => a
  | .verdict code distance => .datagram (verdict code (seq + distance))

/-- A call that fails with `error` if there is one, and changes the kernel otherwise. -/
def attempt (k : Kernel) (call : KernelCall) (error : Option OsError) (after : Kernel) :
    Outcome Kernel (Except OsError Unit) :=
  match error with
  | some e => { result := .error e, state := k, events := [.call call] }
  | none => { result := .ok (), state := after, events := [.call call] }

/-- Creates the socket. -/
def createSocket (k : Kernel) : Outcome Kernel (Except OsError Unit) :=
  k.attempt (.socket netfilterProtocol) k.socketError k

/-- Binds the socket to an address of the kernel's choice. -/
def bind (k : Kernel) : Outcome Kernel (Except OsError Unit) :=
  k.attempt .bind k.bindError k

/-! ## Sending -/

/-- Sends a message; what the kernel answers joins the queue. -/
def send (bytes : Bytes) (k : Kernel) : Outcome Kernel (Except OsError Unit) :=
  match k.sendErrors with
  | some e :: rest =>
    { result := .error e, state := { k with sendErrors := rest }
      events := [.call (.sendFailed e)] }
  | _ =>
    let seq := UInt32.ofNat (Bytes.leValue (bytes.window 8 4))
    let answer := k.answers.headD [.verdict 0 0]
    { result := .ok ()
      state := { k with
        sendErrors := k.sendErrors.tail
        answers := k.answers.tail
        queue := k.queue ++ answer.map (arrivalFor seq) }
      events := [.call (.send bytes)] }

/-! ## Receiving -/

/-- The length of the next datagram, which stays where it is. An empty queue has length 0. -/
def peek (k : Kernel) : Outcome Kernel (Except OsError Nat) :=
  match k.queue with
  | [] => { result := .ok 0, state := k }
  | .datagram bytes _ :: _ => { result := .ok bytes.length, state := k }
  | .failure e :: rest =>
    { result := .error e, state := { k with queue := rest }, events := [.call (.receiveFailed e)] }

/-- Reads the next datagram into a buffer of `room` bytes. An empty queue gives no bytes. -/
def read (room : Nat) (k : Kernel) : Outcome Kernel (Except OsError Bytes) :=
  match k.queue with
  | [] => { result := .ok [], state := k }
  | .datagram bytes [] :: rest =>
    { result := .ok (bytes.take room), state := { k with queue := rest }
      events := [.call (.receive bytes.length room)] }
  | .datagram bytes (e :: faults) :: rest =>
    { result := .error e, state := { k with queue := .datagram bytes faults :: rest }
      events := [.call (.receiveFailed e)] }
  | .failure e :: rest =>
    { result := .error e, state := { k with queue := rest }, events := [.call (.receiveFailed e)] }

/-- How many reads it takes to empty the queue. -/
def backlog (k : Kernel) : Nat := k.queue.foldr (fun a calls => a.calls + calls) 0

theorem backlog_peek_of_error {k : Kernel} {e : OsError} (h : k.peek.result = .error e) :
    k.peek.state.backlog < k.backlog := by
  unfold peek at h ⊢
  split at h
  · cases h
  · cases h
  · rename_i hq
    simp [backlog, hq, Arrival.calls]

theorem backlog_peek_of_ok {k : Kernel} {n : Nat} (h : k.peek.result = .ok n) :
    k.peek.state = k := by
  unfold peek at h ⊢
  split at h
  · rfl
  · rfl
  · cases h

theorem backlog_read_of_error {k : Kernel} {room : Nat} {e : OsError}
    (h : (k.read room).result = .error e) : (k.read room).state.backlog < k.backlog := by
  unfold read at h ⊢
  split at h
  · cases h
  · cases h
  · rename_i hq
    simp [backlog, hq, Arrival.calls]
  · rename_i hq
    simp [backlog, hq, Arrival.calls]

theorem backlog_read_of_ok {k : Kernel} {room : Nat} {b : UInt8} {bytes : Bytes}
    (h : (k.read room).result = .ok (b :: bytes)) :
    (k.read room).state.backlog < k.backlog := by
  unfold read at h ⊢
  split at h
  · cases h
  · rename_i hq
    simp [backlog, hq, Arrival.calls]
  · cases h
  · cases h

/-! ## Options -/

/-- Asks for a size of the receive buffer, past the system's limit if `force`. -/
def setBufferSize (force : Bool) (size : Nat) (k : Kernel) :
    Outcome Kernel (Except OsError Unit) :=
  k.attempt (.setReceiveBuffer force size) (if force then k.forceError else k.bufferError)
    { k with bufferSize := size }

/-- The size of the receive buffer. -/
def readBufferSize (k : Kernel) : Except OsError Int :=
  match k.bufferReadError with
  | some e => .error e
  | none => .ok (k.granted.getD k.bufferSize)

/-- Sets how long a read may wait. -/
def setTimeout (time : TimeVal) (k : Kernel) : Outcome Kernel (Except OsError Unit) :=
  k.attempt (.setReceiveTimeout time) k.timeoutError { k with timeout := time }

end Kernel

end PacketLog
