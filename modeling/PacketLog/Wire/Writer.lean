import PacketLog.Wire.Attr

set_option autoImplicit false

/-! # Writing attributes

An `AttrWriter` appends attributes to a byte string. `put` writes a whole attribute and pads
it; `beginNested` writes a header whose length is patched by `endNested`, and everything
written in between is the payload. A step that cannot be encoded is refused and gives no new
writer. -/

namespace PacketLog

/-- Bytes that grow by one attribute at a time. -/
structure AttrWriter where
  /-- What was written so far. -/
  bytes : Bytes := []
  deriving DecidableEq, Inhabited

/-- The place of a nested attribute that is still open. -/
structure NestToken where
  /-- Where the header of the attribute starts. -/
  start : Nat
  deriving DecidableEq, Inhabited

namespace AttrWriter

/-- Zero bytes up to the next multiple of four. -/
def pad (bytes : Bytes) : Bytes :=
  bytes ++ List.replicate (align bytes.length - bytes.length) 0

/-- Appends an attribute. -/
def put (w : AttrWriter) (word : UInt16) (payload : Bytes) : Except WireError AttrWriter :=
  let len := Attr.headerSize + payload.length
  if Attr.maxLength < len then
    .error (.tooLarge len Attr.maxLength)
  else
    .ok { bytes := pad (w.bytes ++ (Bytes.le 2 len ++ Bytes.le 2 word.toNat ++ payload)) }

/-- Appends a number of one byte. -/
def putUInt8 (w : AttrWriter) (word : UInt16) (n : UInt8) : Except WireError AttrWriter :=
  w.put word [n]

/-- Appends a number of two bytes in network order. -/
def putUInt16 (w : AttrWriter) (word : UInt16) (n : UInt16) : Except WireError AttrWriter :=
  w.put word (Bytes.be 2 n.toNat)

/-- Appends a number of four bytes in network order. -/
def putUInt32 (w : AttrWriter) (word : UInt16) (n : UInt32) : Except WireError AttrWriter :=
  w.put word (Bytes.be 4 n.toNat)

/-- Appends a number of eight bytes in network order. -/
def putUInt64 (w : AttrWriter) (word : UInt16) (n : UInt64) : Except WireError AttrWriter :=
  w.put word (Bytes.be 8 n.toNat)

/-- Appends a text in UTF-8, ended by a zero byte. -/
def putText (w : AttrWriter) (word : UInt16) (text : String) : Except WireError AttrWriter :=
  w.put word (Bytes.ofText text ++ [0])

/-- Opens a nested attribute, its length still zero. -/
def beginNested (w : AttrWriter) (word : UInt16) : AttrWriter × NestToken :=
  ({ bytes := w.bytes ++ (Bytes.le 2 0 ++ Bytes.le 2 (word ||| Attr.nestedFlag).toNat) },
    { start := w.bytes.length })

/-- Closes a nested attribute: everything after its start is its length. -/
def endNested (w : AttrWriter) (token : NestToken) : Except WireError AttrWriter :=
  let len := w.bytes.length - token.start
  if Attr.maxLength < len then
    .error (.tooLarge len Attr.maxLength)
  else
    .ok { bytes := w.bytes.overwrite token.start (Bytes.le 2 len) }

end AttrWriter

end PacketLog
