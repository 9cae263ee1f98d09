import PacketLog.OsError
import PacketLog.Wire.Error

set_option autoImplicit false

/-! # What can go wrong between program and kernel -/

namespace PacketLog

/-- A reason why a transport did not do what it was asked for. -/
inductive TransportError where
  /-- The socket could not be created or bound. -/
  | «open» (error : OsError)
  /-- A system call failed. -/
  | io (error : OsError)
  /-- The kernel declined a request. -/
  | rejected (code : Int32)
  /-- A reply could not be read. -/
  | malformed (error : WireError)
  /-- Nothing arrived in time. -/
  | timedOut
  /-- The kernel dropped records for lack of room. -/
  | overrun
  /-- There is nothing more to come. -/
  | closed
  deriving DecidableEq, Inhabited

namespace TransportError

/-- Whether the transport can go on receiving after the error. -/
def isTransient : TransportError → Bool
  | timedOut => true
  | overrun => true
  | _ => false

/-- The wording of the error. -/
def message : TransportError → String
  | «open» error => s!"failed to open netlink socket: {error.message}"
  | io error => s!"transport I/O error: {error.message}"
  | rejected code => "request rejected by kernel: " ++ (OsError.mk code).message
  | malformed error => s!"malformed netlink traffic: {error.message}"
  | timedOut => "receive timed out"
  | overrun => "receive buffer overrun, records were lost"
  | closed => "transport closed"

end TransportError

end PacketLog
