import PacketLog.Text.Hex
import PacketLog.Transport.Error

set_option autoImplicit false

/-! # What can go wrong in a session -/

namespace PacketLog

/-- A reason why a session did not do what it was asked for. -/
inductive SessionError where
  /-- A message or an attribute is malformed. -/
  | attr (error : WireError)
  /-- The transport failed. -/
  | transport (error : TransportError)
  /-- The kernel declined a command. -/
  | rejected (code : Int32)
  /-- The group is bound already. -/
  | conflict (group : UInt16)
  /-- A record arrived for a group that is not bound. -/
  | noSubscriber (group : UInt16)
  /-- A record arrived for a bound group without a handler. -/
  | noCallback (group : UInt16)
  /-- The handle belongs to another session. -/
  | staleHandle
  /-- The handle's group is not bound. -/
  | unknownGroup (group : UInt16)
  /-- A message has a type that is not expected there. -/
  | unexpectedMessage (kind : UInt16)
  /-- A configuration message holds no command. -/
  | invalidCommand (reason : String)
  deriving DecidableEq, Inhabited

namespace SessionError

/-- Whether the error only says that nobody waits for a record, as is usual when several programs
listen. -/
def isRecoverable : SessionError → Bool
  | noSubscriber _ => true
  | noCallback _ => true
  | _ => false

/-- A transport's error, seen from the session: what the kernel declined and what could not be
read are told apart from failures of the transport. -/
def ofTransport : TransportError → SessionError
  | .rejected code => rejected code
  | .malformed error => attr error
  | error => transport error

/-- The wording of the error. -/
def message : SessionError → String
  | attr error => s!"attribute error: {error.message}"
  | transport error => s!"transport error: {error.message}"
  | rejected code => "command rejected by kernel: " ++ (OsError.mk code).message
  | conflict group => s!"group {group} is already bound"
  | noSubscriber group => s!"no subscriber for group {group}"
  | noCallback group => s!"group {group} has no handler"
  | staleHandle => "group handle belongs to another session"
  | unknownGroup group => s!"group {group} is not bound"
  | unexpectedMessage kind => "unexpected message type 0x" ++ Text.hexPadded 4 kind.toNat
  | invalidCommand reason => s!"invalid command: {reason}"

end SessionError

end PacketLog
