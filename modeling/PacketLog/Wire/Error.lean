set_option autoImplicit false

/-! # What can be wrong on the wire

`WireError` lists the causes for which a message or an attribute sequence is refused, and
`WireError.message` gives each its wording. -/

namespace PacketLog

/-- A reason to refuse bytes read from the wire, or to refuse to write some. -/
inductive WireError where
  /-- Fewer than four bytes are left where an attribute has to start. -/
  | truncatedHeader (offset remaining : Nat)
  /-- An attribute declares a length that does not even cover its own header. -/
  | lengthTooShort (offset len : Nat)
  /-- An attribute declares more bytes than are left. -/
  | lengthOverflow (offset len remaining : Nat)
  /-- A table lies deeper below the top level than `max`. -/
  | nestingTooDeep (max : Nat)
  /-- The payload of a fixed-width attribute has another width. -/
  | typeMismatch (kind : UInt16) (expected actual : Nat)
  /-- The payload of a text attribute is not UTF-8. -/
  | invalidString (kind : UInt16)
  /-- A message ends before its header or its declared length. -/
  | truncatedMessage (needed available : Nat)
  /-- What was to be written does not fit its length field. -/
  | tooLarge (len max : Nat)
  deriving DecidableEq, Inhabited

namespace WireError

/-- The wording of the error. -/
def message : WireError → String
  | truncatedHeader offset remaining =>
    s!"truncated attribute header at offset {offset} ({remaining} bytes left)"
  | lengthTooShort offset len =>
    s!"attribute at offset {offset} declares length {len}, shorter than its header"
  | lengthOverflow offset len remaining =>
    s!"attribute at offset {offset} declares length {len} but only {remaining} bytes remain"
  | nestingTooDeep max => s!"attribute nesting exceeds maximum depth {max}"
  | typeMismatch kind expected actual =>
    s!"attribute {kind} has {actual} bytes, expected {expected}"
  | invalidString kind => s!"attribute {kind} is not valid UTF-8 text"
  | truncatedMessage needed available =>
    s!"truncated message ({available} bytes, need {needed})"
  | tooLarge len max => s!"encoded size too large ({len} bytes, max {max})"

end WireError

end PacketLog
