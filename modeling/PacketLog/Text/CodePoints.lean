set_option autoImplicit false

/-! # Ranges of code points

A property of characters is given by the ranges of code points that have it, first and last
included. -/

namespace PacketLog.Text

/-- Whether the code point of a character lies in a range. -/
def isBetween (first last : Nat) (c : Char) : Bool := first ≤ c.toNat && c.toNat ≤ last

/-- Whether the code point of a character lies in one of several ranges. -/
def isWithin (ranges : List (Nat × Nat)) (c : Char) : Bool :=
  ranges.any fun (first, last) => isBetween first last c

end PacketLog.Text
