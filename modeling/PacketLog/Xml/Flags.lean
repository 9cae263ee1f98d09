import PacketLog.Text.Separated
import PacketLog.Wire.Error

set_option autoImplicit false

/-! # Which fields a document shows

`XmlFlags` selects the optional elements of a rendered record. A selection is written as a
list of names between commas; `XmlFlags.parse` reads it as the union of what the names
stand for. -/

namespace PacketLog

/-- A reason to refuse to render a record. -/
inductive XmlError where
  /-- A field that the document needs is malformed. -/
  | attr (error : WireError)
  /-- A fragment could not be formatted. -/
  | format
  /-- A name in a list of flags is not known. -/
  | unknownFlag (name : String)
  deriving DecidableEq, Inhabited

/-- The wording of the error. -/
def XmlError.message : XmlError → String
  | attr error => s!"record attribute error: {error.message}"
  | format => "failed to format xml fragment"
  | unknownFlag name => s!"unknown xml flag: {name}"

/-- A selection of optional elements, one bit each. -/
structure XmlFlags where
  bits : UInt32
  deriving DecidableEq, Inhabited

namespace XmlFlags

def none : XmlFlags := ⟨0⟩
def logPrefix : XmlFlags := ⟨0x01⟩
def hw : XmlFlags := ⟨0x02⟩
def mark : XmlFlags := ⟨0x04⟩
def device : XmlFlags := ⟨0x08⟩
def physDevice : XmlFlags := ⟨0x10⟩
def payload : XmlFlags := ⟨0x20⟩
def time : XmlFlags := ⟨0x40⟩
def connectionId : XmlFlags := ⟨0x80⟩
def all : XmlFlags := ⟨0xffffffff⟩

/-- Whether everything that `other` selects is selected. -/
def contains (flags other : XmlFlags) : Bool := flags.bits &&& other.bits == other.bits

/-- What either of the two selects. -/
def union (a b : XmlFlags) : XmlFlags := ⟨a.bits ||| b.bits⟩

/-- The selection without what `other` selects. -/
def without (flags other : XmlFlags) : XmlFlags := ⟨flags.bits &&& ~~~other.bits⟩

/-- The flag of a lowercase name. -/
def ofName? : String → Option XmlFlags
  | "none" => some none
  | "prefix" => some logPrefix
  | "hw" => some hw
  | "mark" => some mark
  | "dev" => some device
  | "physdev" => some physDevice
  | "payload" => some payload
  | "time" => some time
  | "ctid" => some connectionId
  | "all" => some all
  | _ => Option.none

/-- The flag of a name, in ASCII letters of either case. -/
def ofPiece (piece : List Char) : Except XmlError XmlFlags :=
  match ofName? (String.ofList (piece.map Char.toLower)) with
  | some flag => .ok flag
  | Option.none => .error (.unknownFlag (String.ofList piece))

/-- Reads a list of names between commas. Blanks around a name and empty names are passed
over. -/
def parse (s : String) : Except XmlError XmlFlags :=
  let names := ((Text.pieces ',' s.toList).map Text.trim).filter (!·.isEmpty)
  names.foldlM (fun flags piece => (ofPiece piece).map flags.union) none

end XmlFlags

end PacketLog
