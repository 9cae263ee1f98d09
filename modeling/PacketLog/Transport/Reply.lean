import PacketLog.Transport.Error
import PacketLog.Wire.Message

set_option autoImplicit false

/-! # Replies

While a request waits for its verdict, each datagram that arrives is classified by its first
message: the kernel sends a verdict in a datagram of its own. -/

namespace PacketLog

/-- How a datagram relates to the request that waits. -/
inductive Reply where
  /-- The kernel accepted the request. -/
  | ack
  /-- The kernel declined the request. -/
  | rejected (code : Int32)
  /-- The verdict on another request. -/
  | stale (seq : UInt32)
  /-- No verdict at all. -/
  | unrelated
  deriving DecidableEq, Inhabited

namespace Reply

/-- The error number in a negative verdict. The least number of all has no opposite and gives the
greatest. -/
def opposite (code : Int32) : Int32 :=
  if code = Int32.minValue then Int32.maxValue else -code

/-- Classifies a datagram while the request with number `seq` waits. -/
def classify (datagram : Bytes) (seq : UInt32) : Except TransportError Reply := do
  let m ← (Message.parse datagram).mapError .malformed
  match ← m.errorCode.mapError .malformed with
  | none => return unrelated
  | some code =>
    match m.ackedSeq with
    | none => throw (.malformed (.truncatedMessage (4 + MessageHeader.size) m.payload.length))
    | some acked =>
      if acked ≠ seq then return stale acked
      else if code = 0 then return ack
      else return rejected (opposite code)

end Reply

end PacketLog
