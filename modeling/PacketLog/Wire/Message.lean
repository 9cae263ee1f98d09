import PacketLog.Wire.Header
import PacketLog.Wire.Writer

set_option autoImplicit false

/-! # Messages

A message is a header and a payload of the length that the header declares. A batch of
messages, each padded to a multiple of four, is read by a `Message.Splitter`, one message a
step, up to the end or to the first malformed one. `MessageBuilder` writes a netfilter
message: both headers, then attributes. -/

namespace PacketLog

/-- One netlink message. -/
structure Message where
  header : MessageHeader
  /-- The bytes after the header, up to the declared length. -/
  payload : Bytes
  deriving DecidableEq, Inhabited

namespace Message

/-- Reads the message at the start of `bytes`. -/
def parse (bytes : Bytes) : Except WireError Message := do
  let header ← MessageHeader.decode bytes
  let len := header.len.toNat
  if len < MessageHeader.size ∨ bytes.length < len then
    .error (.truncatedMessage (max len MessageHeader.size) bytes.length)
  else
    .ok { header, payload := bytes.window MessageHeader.size (len - MessageHeader.size) }

/-- The netfilter header at the start of the payload, and the attributes after it. -/
def group (m : Message) : Except WireError (GroupHeader × Bytes) :=
  (GroupHeader.decode m.payload).map fun h => (h, m.payload.drop GroupHeader.size)

/-- The verdict that a message of the error type carries: 0 acknowledges, a negative error
number rejects. Other messages carry none. -/
def errorCode (m : Message) : Except WireError (Option Int32) :=
  if m.header.kind ≠ MessageHeader.errorKind then .ok none
  else if m.payload.length < 4 then .error (.truncatedMessage 4 m.payload.length)
  else .ok (some (UInt32.ofNat (Bytes.leValue (m.payload.take 4))).toInt32)

/-- The number of the request that the header echoed after the verdict belongs to. -/
def ackedSeq (m : Message) : Option UInt32 :=
  match MessageHeader.decode (m.payload.drop 4) with
  | .ok h => some h.seq
  | .error _ => none

/-! ## Batches -/

/-- A place in a batch of messages. -/
structure Splitter where
  /-- The bytes that are still to be read; none after an error. -/
  rest : Bytes
  deriving DecidableEq, Inhabited

namespace Splitter

/-- Reads the next message. The padding after the last one may be missing; after an error
there is no further item. -/
def next? (s : Splitter) : Option (Except WireError Message × Splitter) :=
  match s.rest with
  | [] => none
  | _ :: _ =>
    match parse s.rest with
    | .ok m => some (.ok m, { rest := s.rest.drop (align m.header.len.toNat) })
    | .error e => some (.error e, { rest := [] })

theorem size_le_of_parse {bytes : Bytes} {m : Message} (h : parse bytes = .ok m) :
    MessageHeader.size ≤ m.header.len.toNat ∧ m.header.len.toNat ≤ bytes.length := by
  unfold parse at h
  cases hd : MessageHeader.decode bytes with
  | error e => rw [hd] at h; cases h
  | ok header =>
    rw [hd] at h
    simp only [bind, Except.bind] at h
    split at h
    · cases h
    · rename_i hlen
      cases h
      simp only [not_or, Nat.not_lt] at hlen
      exact hlen

theorem rest_lt_of_next? {s t : Splitter} {item : Except WireError Message}
    (h : s.next? = some (item, t)) : t.rest.length < s.rest.length := by
  obtain ⟨rest⟩ := s
  simp only [next?] at h
  split at h
  · cases h
  · split at h
    · rename_i m hm
      cases h
      have hsize := (size_le_of_parse hm).1
      have halign := le_align m.header.len.toNat
      have : MessageHeader.size = 16 := rfl
      simp only [List.length_drop, List.length_cons]
      omega
    · cases h; simp

/-- All items that the splitter still yields, an error last. -/
def items (s : Splitter) : List (Except WireError Message) :=
  match _ : s.next? with
  | none => []
  | some (item, t) => item :: items t
termination_by s.rest.length
decreasing_by exact rest_lt_of_next? (by assumption)

end Splitter

/-- The messages of a batch in order, followed by the error that ended it, if any. -/
def split (bytes : Bytes) : List (Except WireError Message) := Splitter.items { rest := bytes }

end Message

/-! ## Building -/

/-- A netfilter message in the making: both headers and the attributes so far. -/
structure MessageBuilder where
  attrs : AttrWriter
  deriving DecidableEq, Inhabited

namespace MessageBuilder

/-- The greatest length that a message can declare. -/
def maxLength : Nat := 4294967295

/-- A message without attributes. Its length is set by `finish`, its sequence number when it
is sent. -/
def new (kind flags : UInt16) (group : GroupHeader) : MessageBuilder :=
  { attrs := { bytes := ({ kind, flags } : MessageHeader).encode ++ group.encode } }

/-- The finished message, its length filled in. -/
def finish (b : MessageBuilder) : Except WireError Bytes :=
  let len := b.attrs.bytes.length
  if maxLength < len then
    .error (.tooLarge len maxLength)
  else
    .ok (b.attrs.bytes.overwrite 0 (Bytes.le 4 len))

end MessageBuilder

end PacketLog
