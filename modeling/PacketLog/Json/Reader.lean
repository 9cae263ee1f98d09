import PacketLog.Text.Hex

set_option autoImplicit false

/-! # Reading JSON

A `Reader` is a place in a JSON text. Reading is done by a `Decoder`, which knows what it
expects and reports the first thing that is not so: either the text is no JSON, or a value
is not the expected one. An error is located at the last byte that was looked at, and the
place is known after an error as well. -/

namespace PacketLog

/-- What is wrong with a JSON text. -/
inductive JsonFault where
  | eofInList
  | eofInObject
  | eofInString
  | eofInValue
  | expectedColon
  | expectedListEnd
  | expectedObjectEnd
  | expectedIdent
  | expectedValue
  | invalidEscape
  | invalidNumber
  | numberOutOfRange
  | invalidCodePoint
  | controlCharacter
  | keyNotString
  | loneSurrogate
  | trailingComma
  | trailingCharacters
  | unfinishedSurrogate
  /-- The text is JSON but not what is expected. -/
  | unexpected (text : String)
  deriving DecidableEq, Inhabited

/-- The kinds of faults. -/
inductive JsonFault.Category where
  /-- The text ends too early. -/
  | eof
  /-- The text is no JSON. -/
  | malformed
  /-- A value is not the expected one. -/
  | data
  deriving DecidableEq, Inhabited

namespace JsonFault

def category : JsonFault → Category
  | eofInList => .eof
  | eofInObject => .eof
  | eofInString => .eof
  | eofInValue => .eof
  | unexpected _ => .data
  | _ => .malformed

/-- The wording of the fault. -/
def message : JsonFault → String
  | eofInList => "EOF while parsing a list"
  | eofInObject => "EOF while parsing an object"
  | eofInString => "EOF while parsing a string"
  | eofInValue => "EOF while parsing a value"
  | expectedColon => "expected \x60:\x60"
  | expectedListEnd => "expected \x60,\x60 or \x60]\x60"
  | expectedObjectEnd => "expected \x60,\x60 or \x60\x7d\x60"
  | expectedIdent => "expected ident"
  | expectedValue => "expected value"
  | invalidEscape => "invalid escape"
  | invalidNumber => "invalid number"
  | numberOutOfRange => "number out of range"
  | invalidCodePoint => "invalid unicode code point"
  | controlCharacter =>
    "control character (\\u0000-\\u001F) found while parsing a string"
  | keyNotString => "key must be a string"
  | loneSurrogate => "lone leading surrogate in hex escape"
  | trailingComma => "trailing comma"
  | trailingCharacters => "trailing characters"
  | unfinishedSurrogate => "unexpected end of hex escape"
  | unexpected text => text

end JsonFault

/-- A place in a text: lines count from 1, columns are the bytes of the line so far. -/
structure TextPosition where
  line : Nat := 1
  column : Nat := 0
  deriving DecidableEq, Inhabited

/-- The place after one more byte. -/
def TextPosition.after (p : TextPosition) (b : UInt8) : TextPosition :=
  if b = 0x0a then { line := p.line + 1, column := 0 } else { p with column := p.column + 1 }

/-- A fault, and where it is if that is known yet. -/
structure JsonError where
  fault : JsonFault
  position : Option TextPosition := none
  deriving DecidableEq, Inhabited

/-- The wording of the error. -/
def JsonError.message (e : JsonError) : String :=
  match e.position with
  | some p => e.fault.message ++ s!" at line {p.line} column {p.column}"
  | none => e.fault.message

/-- A place in a JSON text. -/
structure Reader where
  /-- What is still to be read. -/
  rest : Bytes
  /-- The place of `rest`. -/
  start : TextPosition := {}
  /-- Whether the first byte of `rest` was looked at. -/
  looked : Bool := false
  deriving Inhabited

namespace Reader

/-- The place of the last byte that was looked at. -/
def position (r : Reader) : TextPosition :=
  match r.looked, r.rest with
  | true, b :: _ => r.start.after b
  | _, _ => r.start

/-- Passes over the first byte. -/
def eat (r : Reader) : Reader :=
  match r.rest with
  | [] => r
  | b :: rest => { rest, start := r.start.after b }

/-- Passes over the bytes up to the first that is not in a class, and looks at that one. -/
def spanFrom (p : UInt8 → Bool) : Bytes → TextPosition → Bytes × Reader
  | [], start => ([], { rest := [], start })
  | b :: rest, start =>
    if p b then
      let (taken, r) := spanFrom p rest (start.after b)
      (b :: taken, r)
    else ([], { rest := b :: rest, start, looked := true })

end Reader

/-- Reads a value, or says what is wrong. -/
abbrev Decoder (α : Type) := ExceptT JsonError (StateM Reader) α

namespace Decoder

variable {α β : Type}

/-! ## Bytes -/

/-- The next byte, which stays where it is. -/
def peek : Decoder (Option UInt8) := do
  modify fun r => { r with looked := true }
  return (← get).rest.head?

/-- The next byte. -/
def next : Decoder (Option UInt8) := do
  let b := (← get).rest.head?
  modify Reader.eat
  return b

/-- Passes over the byte that was looked at. -/
def eat : Decoder Unit := modify Reader.eat

/-- The bytes up to the first that is not in a class. -/
def span (p : UInt8 → Bool) : Decoder Bytes := do
  let r ← get
  let (taken, r) := Reader.spanFrom p r.rest r.start
  set r
  return taken

/-- The first byte that is not a blank, which stays where it is. -/
def peekToken : Decoder (Option UInt8) := do
  let _ ← span fun b => b == 0x20 || b == 0x0a || b == 0x09 || b == 0x0d
  peek

/-- Reports a fault at the last byte that was looked at. -/
def fail (fault : JsonFault) : Decoder α := do
  throw { fault, position := some (← get).position }

/-- Reports a value that is not the expected one. Its place is filled in by whoever asked. -/
def reject (text : String) : Decoder α := throw { fault := .unexpected text }

/-- Gives an error the place where it was noticed, unless it has one. -/
def located (d : Decoder α) : Decoder α := do
  try d
  catch e =>
    match e.position with
    | some _ => throw e
    | none => throw { e with position := some (← get).position }

/-- Reads the rest of a fixed word. -/
def word : List Char → Decoder Unit
  | [] => return
  | c :: rest => do
    match ← next with
    | none => fail .eofInValue
    | some b => if b.toNat = c.toNat then word rest else fail .expectedIdent

/-! ## Texts -/

/-- What comes next inside a text. -/
inductive Inside where
  | plain
  /-- After a backslash. -/
  | escape
  /-- Among the four digits of a code unit, after the leading surrogate if there is one. -/
  | hex (lead : Option Nat) (digits : List UInt8)
  /-- After a leading surrogate, where a backslash is due. -/
  | trailBackslash (lead : Nat)
  /-- After that backslash. -/
  | trailLetter (lead : Nat)

/-- The byte that a letter after a backslash stands for. -/
def escapedByte? (b : UInt8) : Option UInt8 :=
  if b = 0x22 ∨ b = 0x5c ∨ b = 0x2f then some b
  else if b = 0x62 then some 0x08
  else if b = 0x66 then some 0x0c
  else if b = 0x6e then some 0x0a
  else if b = 0x72 then some 0x0d
  else if b = 0x74 then some 0x09
  else none

/-- What a code unit leads to, after `lead`: a fault, a surrogate that waits for its second half, or
a character. -/
inductive Unit16 where
  | fault (f : JsonFault)
  | surrogate (lead : Nat)
  | char (c : Char)

/-- Takes up a code unit. -/
def unit16 (lead : Option Nat) (n : Nat) : Unit16 :=
  match lead with
  | none =>
    if 0xdc00 ≤ n ∧ n ≤ 0xdfff then .fault .loneSurrogate
    else if 0xd800 ≤ n ∧ n ≤ 0xdbff then .surrogate n
    else .char (Char.ofNat n)
  | some lead =>
    if 0xdc00 ≤ n ∧ n ≤ 0xdfff then
      .char (Char.ofNat ((lead - 0xd800) * 0x400 + (n - 0xdc00) + 0x10000))
    else .fault .loneSurrogate

/-- The text that the bytes between two quotes spell, where `close` is the place of the second.
Bytes that are no UTF-8 are reported where they begin, counted back from there; an escape counts as
the bytes that it stands for. -/
def spelled (bytes : Bytes) (close : TextPosition) : Except JsonError String :=
  match bytes.toText? with
  | some s => .ok s
  | none =>
    let column := close.column - (bytes.length - bytes.textLength)
    .error { fault := .invalidCodePoint, position := some { close with column } }

/-- Reads a text up to its closing quote. The bytes that it spells so far are in `read`, the last
first. Whether they are UTF-8 is only asked at the end. -/
def textFrom : Inside → Bytes → Bytes → TextPosition → Except JsonError String × Reader
  | _, _, [], start =>
    (.error { fault := .eofInString, position := some start }, { rest := [], start })
  | inside, read, b :: rest, start =>
    let start := start.after b
    let stop (f : JsonFault) : Except JsonError String × Reader :=
      (.error { fault := f, position := some start }, { rest, start })
    match inside with
    | .plain =>
      if b = 0x22 then (spelled read.reverse start, { rest, start })
      else if b = 0x5c then textFrom .escape read rest start
      else if b < 0x20 then stop .controlCharacter
      else textFrom .plain (b :: read) rest start
    | .escape =>
      if b = 0x75 then textFrom (.hex none []) read rest start
      else match escapedByte? b with
        | some c => textFrom .plain (c :: read) rest start
        | none => stop .invalidEscape
    | .hex lead digits =>
      let digits := digits ++ [b]
      if digits.length < 4 then textFrom (.hex lead digits) read rest start
      else match digits.mapM fun d => Text.hexDigit? (Char.ofNat d.toNat) with
        | none => stop .invalidEscape
        | some values =>
          match unit16 lead (values.foldl (fun n d => n * 16 + d) 0) with
          | .fault f => stop f
          | .surrogate lead => textFrom (.trailBackslash lead) read rest start
          | .char c =>
            textFrom .plain ((String.utf8EncodeChar c).reverse ++ read) rest start
    | .trailBackslash lead =>
      if b = 0x5c then textFrom (.trailLetter lead) read rest start else stop .unfinishedSurrogate
    | .trailLetter lead =>
      if b = 0x75 then textFrom (.hex (some lead) []) read rest start
      else stop .unfinishedSurrogate

/-- Reads a text whose opening quote is next. -/
def textBody : Decoder String := do
  eat
  ExceptT.mk fun r => textFrom .plain [] r.rest r.start

/-! ## Whole texts -/

/-- Reads one value that fills a text. -/
def readAll (d : Decoder α) (bytes : Bytes) : Except JsonError α :=
  let whole : Decoder α := do
    let value ← d
    match ← peekToken with
    | some _ => fail .trailingCharacters
    | none => return value
  (whole.run { rest := bytes }).1

end Decoder

end PacketLog
