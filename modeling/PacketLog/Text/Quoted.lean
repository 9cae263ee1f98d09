import PacketLog.Text.Hex
import PacketLog.Text.Shown

set_option autoImplicit false

/-! # Quoted text

A text in quotes on one line, from which it can be read back: quotes and backslashes are
escaped by a backslash, the usual controls have a letter, and every other character without a
visible form of its own is written as its code point in braces. -/

namespace PacketLog.Text

/-- How one character stands between the quotes. -/
def quotedChar (c : Char) : String :=
  if c = '\x00' then "\\0"
  else if c = '\t' then "\\t"
  else if c = '\r' then "\\r"
  else if c = '\n' then "\\n"
  else if c = '\\' then "\\\\"
  else if c = '"' then "\\\""
  else if isShown c then c.toString
  else "\\u\x7b" ++ hexNat c.toNat ++ "\x7d"

/-- A text in quotes. -/
def quoted (s : String) : String := "\"" ++ String.join (s.toList.map quotedChar) ++ "\""

end PacketLog.Text
