import PacketLog.Bytes
import PacketLog.Wire.Error

set_option autoImplicit false

/-! # Message headers

A netlink message starts with sixteen bytes in host order (`MessageHeader`). A netfilter
message goes on with four bytes that name a protocol family and a group (`GroupHeader`), the
group in network order. For each header there is an encoder and a decoder; `decode_encode`
says that the decoder undoes the encoder and leaves the bytes that follow alone. -/

namespace PacketLog

/-! ## The netlink header -/

/-- The sixteen bytes in front of every netlink message. -/
structure MessageHeader where
  /-- Length of the whole message, this header included. -/
  len : UInt32 := 0
  /-- Message type: the subsystem in the high byte, its message in the low byte. -/
  kind : UInt16 := 0
  flags : UInt16 := 0
  /-- Number of the request, echoed in the acknowledgement. -/
  seq : UInt32 := 0
  /-- Address of the sender; the kernel has address 0. -/
  pid : UInt32 := 0
  deriving DecidableEq, Inhabited

namespace MessageHeader

/-- Width of a netlink header. -/
def size : Nat := 16

/-- Message type of an acknowledgement or a rejection. -/
def errorKind : UInt16 := 2

/-- Message type that says nothing. -/
def noopKind : UInt16 := 1

/-- Message type that ends a batch. -/
def doneKind : UInt16 := 3

/-- Flag of a request. -/
def requestFlag : UInt16 := 0x1

/-- Flag that asks for an acknowledgement. -/
def ackFlag : UInt16 := 0x4

/-- The sixteen bytes of a header. -/
def encode (h : MessageHeader) : Bytes :=
  Bytes.le 4 h.len.toNat ++ Bytes.le 2 h.kind.toNat ++ Bytes.le 2 h.flags.toNat ++
    Bytes.le 4 h.seq.toNat ++ Bytes.le 4 h.pid.toNat

/-- Reads a header from the start of `src`. -/
def decode (src : Bytes) : Except WireError MessageHeader :=
  if src.length < size then
    .error (.truncatedMessage size src.length)
  else
    .ok {
      len := .ofNat (Bytes.leValue (src.window 0 4))
      kind := .ofNat (Bytes.leValue (src.window 4 2))
      flags := .ofNat (Bytes.leValue (src.window 6 2))
      seq := .ofNat (Bytes.leValue (src.window 8 4))
      pid := .ofNat (Bytes.leValue (src.window 12 4)) }

/-- The subsystem that the message belongs to. -/
def subsystem (h : MessageHeader) : UInt8 := (h.kind >>> 8).toUInt8

/-- The message within its subsystem. -/
def message (h : MessageHeader) : UInt8 := h.kind.toUInt8

/-- Writes the sequence number into the header at the start of `msg`. -/
def stamp (msg : Bytes) (seq : UInt32) : Except WireError Bytes :=
  if msg.length < size then
    .error (.truncatedMessage size msg.length)
  else
    .ok (msg.overwrite 8 (Bytes.le 4 seq.toNat))

@[simp] theorem length_encode (h : MessageHeader) : h.encode.length = size := by
  simp [encode, size]

theorem decode_encode (h : MessageHeader) (rest : Bytes) : decode (h.encode ++ rest) = .ok h := by
  have hlen : ¬ (h.encode ++ rest).length < size := by simp
  have l := h.len.toNat_lt
  have k := h.kind.toNat_lt
  have f := h.flags.toNat_lt
  have s := h.seq.toNat_lt
  have p := h.pid.toNat_lt
  simp only [decode, hlen, if_false]
  congr 1
  cases h
  simp only [encode, Bytes.window, List.append_assoc] at *
  simp [List.drop_append, List.drop_eq_nil_of_le, Bytes.leValue_le, Bytes.capacity]

end MessageHeader

/-! ## The netfilter header -/

/-- The four bytes that follow the netlink header in a netfilter message. -/
structure GroupHeader where
  /-- Address family, such as 2 for IPv4. -/
  family : UInt8
  version : UInt8 := 0
  /-- The group that the message is about. -/
  group : UInt16
  deriving DecidableEq, Inhabited

namespace GroupHeader

/-- Width of a netfilter header. -/
def size : Nat := 4

/-- The four bytes of a header. -/
def encode (h : GroupHeader) : Bytes :=
  [h.family, h.version] ++ Bytes.be 2 h.group.toNat

/-- Reads a header from the start of `src`. -/
def decode (src : Bytes) : Except WireError GroupHeader :=
  match src with
  | family :: version :: high :: low :: _ =>
    .ok { family, version, group := .ofNat (Bytes.beValue [high, low]) }
  | _ => .error (.truncatedMessage size src.length)

@[simp] theorem length_encode (h : GroupHeader) : h.encode.length = size := by
  simp [encode, size]

theorem decode_encode (h : GroupHeader) (rest : Bytes) : decode (h.encode ++ rest) = .ok h := by
  have hlt : h.group.toNat < Bytes.capacity 2 := h.group.toNat_lt
  have hv := Bytes.beValue_be 2 h.group.toNat
  rw [Nat.mod_eq_of_lt hlt] at hv
  calc decode (h.encode ++ rest)
      = .ok { family := h.family, version := h.version,
              group := .ofNat (Bytes.beValue (Bytes.be 2 h.group.toNat)) } := rfl
    _ = .ok h := by rw [hv, UInt16.ofNat_toNat]

end GroupHeader

end PacketLog
