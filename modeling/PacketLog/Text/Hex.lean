import PacketLog.Bytes

set_option autoImplicit false

/-! # Hexadecimal text

Bytes are shown as two lowercase hexadecimal digits each, the high half first (`Text.hex`), and
read back from digits of either case (`Text.ofHex?`). Numbers are shown as lowercase digits
without leading zeros, or filled up with zeros to a width (`Text.hexNat`,
`Text.hexPadded`). -/

namespace PacketLog.Text

/-- The two digits of a byte. -/
def hexByte (b : UInt8) : String :=
  String.ofList [Nat.digitChar (b.toNat / 16), Nat.digitChar (b.toNat % 16)]

/-- The digits of a byte string. -/
def hex (bytes : Bytes) : String := String.join (bytes.map hexByte)

/-- The value of a digit. -/
def hexDigit? (c : Char) : Option Nat :=
  if '0' ≤ c ∧ c ≤ '9' then some (c.toNat - '0'.toNat)
  else if 'a' ≤ c ∧ c ≤ 'f' then some (c.toNat - 'a'.toNat + 10)
  else if 'A' ≤ c ∧ c ≤ 'F' then some (c.toNat - 'A'.toNat + 10)
  else none

/-- The bytes that pairs of digits spell. -/
def bytesOfDigits : List Char → Option Bytes
  | [] => some []
  | high :: low :: rest => do
    let h ← hexDigit? high
    let l ← hexDigit? low
    return UInt8.ofNat (h * 16 + l) :: (← bytesOfDigits rest)
  | [_] => none

/-- The bytes that a text spells. -/
def ofHex? (s : String) : Option Bytes := bytesOfDigits s.toList

/-- The digits of a number. -/
def hexNat (n : Nat) : String := String.ofList (Nat.toDigits 16 n)

/-- `s` with `fill` in front up to `width` characters. -/
def padLeft (width : Nat) (fill : Char) (s : String) : String :=
  String.ofList (List.replicate (width - s.length) fill) ++ s

/-- The digits of a number, at least `width` of them. -/
def hexPadded (width n : Nat) : String := padLeft width '0' (hexNat n)

end PacketLog.Text
