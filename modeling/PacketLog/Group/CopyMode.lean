set_option autoImplicit false

/-! # Copy modes -/

namespace PacketLog

/-- How much of each packet the kernel copies. -/
inductive CopyMode where
  /-- Nothing. -/
  | nothing
  /-- What is known about the packet. -/
  | metadata
  /-- That, and the packet's bytes up to a range. -/
  | packet
  deriving DecidableEq, Inhabited

namespace CopyMode

/-- The byte that stands for the mode. -/
def toUInt8 : CopyMode → UInt8
  | nothing => 0
  | metadata => 1
  | packet => 2

/-- The mode that a byte stands for. -/
def ofUInt8? (b : UInt8) : Option CopyMode :=
  if b = 0 then some nothing else if b = 1 then some metadata else if b = 2 then some packet
  else none

def name : CopyMode → String
  | nothing => "none"
  | metadata => "meta"
  | packet => "packet"

/-- The mode of a name. -/
def ofName? : String → Option CopyMode
  | "none" => some nothing
  | "meta" => some metadata
  | "packet" => some packet
  | _ => none

theorem ofUInt8?_toUInt8 (m : CopyMode) : ofUInt8? m.toUInt8 = some m := by
  cases m <;> rfl

end CopyMode

end PacketLog
