import PacketLog.Text.Hex

set_option autoImplicit false

/-! # Writing JSON

A `JsonValue` is what the program writes as JSON: integers, texts and objects whose members
keep their order. `JsonValue.render` writes it on one line without blanks. -/

namespace PacketLog

/-- A JSON value. -/
inductive JsonValue where
  | null
  | bool (b : Bool)
  | number (n : Int)
  | text (s : String)
  | object (members : List (String × JsonValue))
  deriving Inhabited

namespace JsonValue

/-- A number without a sign. -/
def ofNat (n : Nat) : JsonValue := number n

/-- A value that may be missing; a missing one is null. -/
def orNull {α : Type} (f : α → JsonValue) : Option α → JsonValue
  | none => null
  | some a => f a

/-! ## Texts -/

/-- How one character stands in a JSON text: quotes, backslashes and controls are escaped. -/
def escapedChar (c : Char) : String :=
  if c = '"' then "\\\""
  else if c = '\\' then "\\\\"
  else if c = '\x08' then "\\b"
  else if c = '\x0c' then "\\f"
  else if c = '\n' then "\\n"
  else if c = '\r' then "\\r"
  else if c = '\t' then "\\t"
  else if c.toNat < 0x20 then "\\u" ++ Text.hexPadded 4 c.toNat
  else c.toString

/-- A text in quotes. -/
def quote (s : String) : String := "\"" ++ String.join (s.toList.map escapedChar) ++ "\""

/-! ## Values -/

mutual

/-- The value on one line. -/
def render : JsonValue → String
  | null => "null"
  | bool true => "true"
  | bool false => "false"
  | number n => toString n
  | text s => quote s
  | object members => "\x7b" ++ ",".intercalate (renderMembers members) ++ "\x7d"

/-- The members of an object, each on its own. -/
def renderMembers : List (String × JsonValue) → List String
  | [] => []
  | (name, value) :: rest => (quote name ++ ":" ++ render value) :: renderMembers rest

end

/-- Leaves out the members that are missing. -/
def present (members : List (String × Option JsonValue)) : List (String × JsonValue) :=
  members.filterMap fun (name, value) => value.map fun v => (name, v)

end JsonValue

end PacketLog
