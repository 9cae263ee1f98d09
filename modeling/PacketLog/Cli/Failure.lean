import PacketLog.Session.Error
import PacketLog.Xml.Flags

set_option autoImplicit false

/-! # How a run fails

A `Failure` is the number that the program ends with and the text that says why: what it was
about to do, and the error. -/

namespace PacketLog.Cli

/-! ## Exit codes -/

namespace ExitCode

def success : Nat := 0

/-- The kernel declined a request. -/
def declined : Nat := 1

/-- The arguments are wrong. -/
def arguments : Nat := 2

/-- The connection to the kernel broke. -/
def transport : Nat := 3

/-- The user may not do that. -/
def permission : Nat := 50

/-- Data are missing or malformed. -/
def data : Nat := 60

/-- What was asked for contradicts itself. -/
def contradiction : Nat := 64

/-- Anything else. -/
def other : Nat := 125

end ExitCode

/-- Why a run ends early. -/
structure Failure where
  code : Nat
  message : String
  deriving DecidableEq, Inhabited

namespace Failure

/-- A failure while doing what `context` says. -/
def because (code : Nat) (context reason : String) : Failure :=
  { code, message := context ++ ": " ++ reason }

/-- The exit code of a failed system call. -/
def osCode (e : OsError) : Nat :=
  if e = .notPermitted ∨ e = .accessDenied then ExitCode.permission
  else if e = .noEntry then ExitCode.data
  else ExitCode.other

/-- A system call failed. -/
def ofOs (context : String) (e : OsError) : Failure := because (osCode e) context e.message

/-- The kernel declined a request, with a positive error number. -/
def ofRejection (context : String) (code : Int32) : Failure :=
  because (if code = 1 then ExitCode.permission else ExitCode.declined) context
    ("kernel rejected the request: " ++ (OsError.mk code).message)

def ofTransport (context : String) : TransportError → Failure
  | .open e => ofOs context e
  | .io e => ofOs context e
  | .rejected code => ofRejection context code
  | .malformed e => because ExitCode.data context (TransportError.malformed e).message
  | e => because ExitCode.transport context e.message

def ofSession (context : String) : SessionError → Failure
  | .transport e => ofTransport context e
  | .rejected code => ofRejection context code
  | .attr e => because ExitCode.data context (SessionError.attr e).message
  | .unexpectedMessage kind =>
    because ExitCode.data context (SessionError.unexpectedMessage kind).message
  | .conflict group => because ExitCode.contradiction context (SessionError.conflict group).message
  | e => because ExitCode.other context e.message

def ofXml (context : String) (e : XmlError) : Failure :=
  let code := match e with
    | .attr _ => ExitCode.data
    | .unknownFlag _ => ExitCode.contradiction
    | .format => ExitCode.other
  because code context e.message

/-- Data are malformed. -/
def ofWire (context : String) (e : WireError) : Failure := because ExitCode.data context e.message

end Failure

end PacketLog.Cli
