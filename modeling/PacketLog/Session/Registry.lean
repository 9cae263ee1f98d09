import PacketLog.Session.Error
import Std.Data.TreeMap

set_option autoImplicit false

/-! # Registries

A `Registry` holds the groups that are bound in one session, each with a handler if one is
installed. Whoever binds a group gets a `GroupHandle`, and the registry decides for a handle
whether it is live: it has to come from the same session and its group has to be bound. The
registry only keeps the books; what the kernel has to be told is the session's task. -/

namespace PacketLog

/-- What stands for one bound group of one session. -/
structure GroupHandle where
  /-- The number of the session. -/
  session : UInt64
  group : UInt16
  deriving DecidableEq, Inhabited

/-- What a registry knows about a bound group. -/
structure GroupEntry (η : Type) where
  handle : GroupHandle
  handler : Option η := none

namespace GroupEntry

/-- Whether a handler is installed. -/
def hasHandler {η : Type} (e : GroupEntry η) : Bool := e.handler.isSome

end GroupEntry

/-- The bound groups of a session. -/
structure Registry (η : Type) where
  /-- The number of the session. -/
  session : UInt64
  groups : Std.TreeMap UInt16 (GroupEntry η) := ∅

namespace Registry

variable {η : Type}

/-- The registry of a session in which nothing is bound. -/
def new (session : UInt64) : Registry η := { session }

/-- The entry of a group. -/
def find? (r : Registry η) (group : UInt16) : Option (GroupEntry η) := r.groups[group]?

/-- The handle that stands for a group of this registry. -/
def handleOf (r : Registry η) (group : UInt16) : GroupHandle := { session := r.session, group }

/-- Adds a group that is not bound yet. -/
def insert (r : Registry η) (group : UInt16) :
    Except SessionError (GroupHandle × Registry η) :=
  match r.find? group with
  | some _ => .error (.conflict group)
  | none =>
    let handle := r.handleOf group
    .ok (handle, { r with groups := r.groups.insert group { handle } })

/-- The entry that a live handle stands for. -/
def resolve (r : Registry η) (h : GroupHandle) : Except SessionError (GroupEntry η) :=
  if h.session ≠ r.session then .error .staleHandle
  else match r.find? h.group with
    | some e => .ok e
    | none => .error (.unknownGroup h.group)

/-- Removes the group of a live handle. -/
def remove (r : Registry η) (h : GroupHandle) :
    Except SessionError (GroupEntry η × Registry η) :=
  (r.resolve h).map fun e => (e, { r with groups := r.groups.erase h.group })

/-- Installs a handler for the group of a live handle, or takes it away. -/
def setHandler (r : Registry η) (h : GroupHandle) (handler : Option η) :
    Except SessionError (Registry η) :=
  (r.resolve h).map fun e => { r with groups := r.groups.insert h.group { e with handler } }

/-- The bound groups in ascending order. -/
def groupList (r : Registry η) : List UInt16 := r.groups.keys

/-- How many groups are bound. -/
def size (r : Registry η) : Nat := r.groups.size

/-- Removes all groups. -/
def clear (r : Registry η) : Registry η := { r with groups := ∅ }

end Registry

end PacketLog
