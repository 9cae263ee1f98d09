import PacketLog.Bytes
import PacketLog.OsError

set_option autoImplicit false

/-! # Calls to the kernel

What a socket asks of the kernel, as it can be watched from outside. -/

namespace PacketLog

/-- A length of time. -/
structure Duration where
  sec : UInt64
  /-- Less than a thousand million. -/
  nanos : UInt32
  deriving DecidableEq, Inhabited

/-- A length of time as the kernel takes it; zero stands for no limit. -/
structure TimeVal where
  sec : Nat
  usec : Nat
  deriving DecidableEq, Inhabited

namespace TimeVal

/-- The time value that sets no limit. -/
def unlimited : TimeVal := { sec := 0, usec := 0 }

/-- The greatest number of seconds that a time value holds. -/
def maxSec : Nat := 0x7fffffffffffffff

/-- A length of time in whole microseconds. Seconds beyond the range count as the greatest. -/
def ofDuration (d : Duration) : TimeVal :=
  { sec := min d.sec.toNat maxSec, usec := d.nanos.toNat / 1000 }

end TimeVal

/-- One call, with what it was given. -/
inductive KernelCall where
  | socket (protocol : Nat)
  | bind
  /-- A message went out. -/
  | send (bytes : Bytes)
  | sendFailed (error : OsError)
  /-- A datagram of `len` bytes was read into a buffer of `room` bytes. -/
  | receive (len room : Nat)
  | receiveFailed (error : OsError)
  /-- The receive buffer's size was asked for, past the system's limit if `force`. -/
  | setReceiveBuffer (force : Bool) (size : Nat)
  | setReceiveTimeout (time : TimeVal)
  deriving DecidableEq, Inhabited

end PacketLog
