import PacketLog.Bytes
import PacketLog.Wire.Error

set_option autoImplicit false

/-! # Attributes

An attribute is a length (two bytes, its own header included), a type (two bytes) and a
payload, followed by padding up to a multiple of four. A sequence of them is read by a
`Scanner`, one attribute a step, up to the end or to the first malformed one. `scan` lists
what the scanner yields. -/

namespace PacketLog

/-- One attribute of a sequence. -/
structure Attr where
  /-- The type word as it stands on the wire, flag bits included. -/
  word : UInt16
  /-- The bytes between header and padding. -/
  payload : Bytes
  deriving DecidableEq, Inhabited

namespace Attr

/-- Width of an attribute's header. -/
def headerSize : Nat := 4

/-- The greatest length that an attribute can declare. -/
def maxLength : Nat := 65535

/-- Flag bit of a type word: the payload is itself an attribute sequence. -/
def nestedFlag : UInt16 := 0x8000

/-- The bits of a type word that are not flags. -/
def kindMask : UInt16 := 0x3fff

/-- The type without its two flag bits. -/
def kind (a : Attr) : UInt16 := a.word &&& kindMask

/-- Whether the sender marked the payload as an attribute sequence. -/
def isNested (a : Attr) : Bool := a.word &&& nestedFlag != 0

/-- A place in an attribute sequence. -/
structure Scanner where
  /-- The bytes that are still to be read; none after an error. -/
  rest : Bytes
  /-- Where `rest` starts in the whole sequence. -/
  offset : Nat := 0
  deriving DecidableEq, Inhabited

namespace Scanner

/-- The scanner that yields nothing more. -/
def stop (s : Scanner) : Scanner := { s with rest := [] }

/-- Reads the next attribute. The padding after the last attribute may be missing, in part or
in whole; after an error there is no further item. -/
def next? (s : Scanner) : Option (Except WireError Attr × Scanner) :=
  match s.rest with
  | [] => none
  | l₀ :: l₁ :: t₀ :: t₁ :: body =>
    let len := Bytes.leValue [l₀, l₁]
    if len < headerSize then
      some (.error (.lengthTooShort s.offset len), s.stop)
    else
      let payload := body.take (len - headerSize)
      if payload.length < len - headerSize then
        some (.error (.lengthOverflow s.offset len s.rest.length), s.stop)
      else
        some (.ok { word := .ofNat (Bytes.leValue [t₀, t₁]), payload },
          { rest := body.drop (align len - headerSize), offset := s.offset + align len })
  | short => some (.error (.truncatedHeader s.offset short.length), s.stop)

theorem rest_lt_of_next? {s t : Scanner} {item : Except WireError Attr}
    (h : s.next? = some (item, t)) : t.rest.length < s.rest.length := by
  obtain ⟨rest, offset⟩ := s
  simp only [next?] at h
  split at h
  · cases h
  · split at h
    · cases h; simp [stop]
    · split at h
      · cases h; simp [stop]
      · cases h; simp; omega
  · rename_i hne _
    have hpos : 0 < rest.length := List.length_pos_iff.mpr hne
    cases h; simpa [stop] using hpos

/-- All items that the scanner still yields, an error last. -/
def items (s : Scanner) : List (Except WireError Attr) :=
  match _ : s.next? with
  | none => []
  | some (item, t) => item :: items t
termination_by s.rest.length
decreasing_by exact rest_lt_of_next? (by assumption)

end Scanner

/-- The attributes of a sequence in wire order, followed by the error that ended it, if any. -/
def scan (bytes : Bytes) : List (Except WireError Attr) := Scanner.items { rest := bytes }

end Attr

end PacketLog
