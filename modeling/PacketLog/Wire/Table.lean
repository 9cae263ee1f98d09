import PacketLog.Wire.Attr
import Std.Data.TreeMap

set_option autoImplicit false

/-! # Attribute tables

An `AttrTable` indexes a sequence of attributes by type: of a repeated type it keeps the last
one, and it counts the attributes whose type it does not index. A payload can be read as a
number of a fixed width, or as a sequence of its own, which gives a table one level deeper
(`AttrTable.nested`); below `AttrTable.maxDepth` no table is read. -/

namespace PacketLog

/-- The attributes of one sequence, by type. -/
structure AttrTable where
  /-- The greatest type that is indexed; the least one is 1. -/
  maxKind : UInt16
  /-- How many levels below the top level the sequence stands. -/
  depth : Nat
  /-- How many attributes had a type outside the index. -/
  skipped : Nat := 0
  /-- The last attribute of each indexed type. -/
  slots : Std.TreeMap UInt16 Attr := ∅

namespace AttrTable

/-- The deepest level at which a table is read. -/
def maxDepth : Nat := 4

/-- Whether a table up to `maxKind` indexes the type `kind`. -/
def Indexes (maxKind kind : UInt16) : Prop := kind ≠ 0 ∧ kind ≤ maxKind

instance (maxKind kind : UInt16) : Decidable (Indexes maxKind kind) :=
  inferInstanceAs (Decidable (_ ∧ _))

/-- Takes up one more attribute. -/
def add (t : AttrTable) (a : Attr) : AttrTable :=
  if Indexes t.maxKind a.kind then
    { t with slots := t.slots.insert a.kind a }
  else
    { t with skipped := t.skipped + 1 }

/-- Reads a sequence that stands `depth` levels below the top. -/
def parseAt (depth : Nat) (bytes : Bytes) (maxKind : UInt16) : Except WireError AttrTable :=
  if maxDepth < depth then
    .error (.nestingTooDeep maxDepth)
  else
    (Attr.scan bytes).foldlM (fun t item => item.map t.add) { maxKind, depth }

/-- Reads a sequence at the top level. -/
def parse (bytes : Bytes) (maxKind : UInt16) : Except WireError AttrTable :=
  parseAt 0 bytes maxKind

/-- The attributes of a sequence that a table up to `maxKind` does not index, up to the first
error: what reading the table passes over. -/
def passedOver (bytes : Bytes) (maxKind : UInt16) : List Attr :=
  (Attr.scan bytes).filterMap fun
    | .ok a => if Indexes maxKind a.kind then none else some a
    | .error _ => none

/-! ## Looking up -/

/-- The attribute of a type. -/
def attr (t : AttrTable) (kind : UInt16) : Option Attr := t.slots[kind]?

/-- The payload of a type. -/
def get (t : AttrTable) (kind : UInt16) : Option Bytes := (t.attr kind).map Attr.payload

/-- Whether a type is present. -/
def contains (t : AttrTable) (kind : UInt16) : Bool := (t.attr kind).isSome

/-- Whether a type is present and marked as an attribute sequence. -/
def isNested (t : AttrTable) (kind : UInt16) : Bool := (t.attr kind).any Attr.isNested

/-- The attributes in ascending order of their types. -/
def toList (t : AttrTable) : List Attr := t.slots.values

/-- How many types are present. -/
def size (t : AttrTable) : Nat := t.slots.size

/-- Whether no type is present. -/
def isEmpty (t : AttrTable) : Bool := t.size == 0

/-! ## Payloads of a fixed width -/

/-- The payload of a type, which has to be `width` bytes wide. -/
def exact (t : AttrTable) (kind : UInt16) (width : Nat) : Except WireError (Option Bytes) :=
  match t.get kind with
  | none => .ok none
  | some bytes =>
    if bytes.length = width then .ok (some bytes)
    else .error (.typeMismatch kind width bytes.length)

/-- The number that a payload of `width` bytes spells in network order. -/
def number (t : AttrTable) (kind : UInt16) (width : Nat) : Except WireError (Option Nat) :=
  (t.exact kind width).map (·.map Bytes.beValue)

/-- A payload of one byte. -/
def uint8 (t : AttrTable) (kind : UInt16) : Except WireError (Option UInt8) :=
  (t.number kind 1).map (·.map UInt8.ofNat)

/-- A payload of two bytes in network order. -/
def uint16 (t : AttrTable) (kind : UInt16) : Except WireError (Option UInt16) :=
  (t.number kind 2).map (·.map UInt16.ofNat)

/-- A payload of four bytes in network order. -/
def uint32 (t : AttrTable) (kind : UInt16) : Except WireError (Option UInt32) :=
  (t.number kind 4).map (·.map UInt32.ofNat)

/-- A payload of eight bytes in network order. -/
def uint64 (t : AttrTable) (kind : UInt16) : Except WireError (Option UInt64) :=
  (t.number kind 8).map (·.map UInt64.ofNat)

/-! ## Going down -/

/-- The payload of a type as a table one level deeper. The nested flag is not asked for: some
senders leave it out. -/
def nested (t : AttrTable) (kind maxKind : UInt16) : Except WireError (Option AttrTable) :=
  match t.get kind with
  | none => .ok none
  | some bytes => (parseAt (t.depth + 1) bytes maxKind).map some

end AttrTable

end PacketLog
