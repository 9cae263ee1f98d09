set_option autoImplicit false

/-! # Lists in a text

A list is written as pieces between separators. `pieces` cuts a text at every separator, and
`trim` takes the blanks off both ends of a piece; a blank is a character of the Unicode
property White_Space. -/

namespace PacketLog.Text

/-- Whether a character is a blank. -/
def isBlank (c : Char) : Bool :=
  (0x9 ≤ c.toNat && c.toNat ≤ 0xd) || c.toNat == 0x20 || c.toNat == 0x85 || c.toNat == 0xa0 ||
    c.toNat == 0x1680 || (0x2000 ≤ c.toNat && c.toNat ≤ 0x200a) || c.toNat == 0x2028 ||
    c.toNat == 0x2029 || c.toNat == 0x202f || c.toNat == 0x205f || c.toNat == 0x3000

/-- A text without the blanks at its ends. -/
def trim (cs : List Char) : List Char :=
  ((cs.dropWhile isBlank).reverse.dropWhile isBlank).reverse

/-- The pieces between the separators of a text; a text without separator is one piece. -/
def pieces (sep : Char) : List Char → List (List Char)
  | [] => [[]]
  | c :: cs =>
    if c = sep then [] :: pieces sep cs
    else match pieces sep cs with
      | piece :: rest => (c :: piece) :: rest
      | [] => [[c]]

end PacketLog.Text
