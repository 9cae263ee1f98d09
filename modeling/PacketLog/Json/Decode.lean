import PacketLog.Decimal.Shortest
import PacketLog.Json.Reader
import PacketLog.Text.Quoted

set_option autoImplicit false

/-! # Typed decoders

Decoders for the values that a configuration holds: numbers, switches, names from a list, and
records, which are written as an object of named fields or as a list of them in order. -/

namespace PacketLog.Decoder

variable {α ρ : Type}

/-! ## Numbers -/

/-- A number as it is written. -/
inductive Numeral where
  /-- A whole number without a sign. -/
  | unsigned (n : Nat)
  /-- A whole number below zero. -/
  | negative (n : Int)
  /-- Any other number. -/
  | real (x : Float)

/-- The greatest whole number that is kept exactly. -/
def maxSignificand : Nat := 0xffffffffffffffff

/-- The greatest exponent that is read. -/
def maxExponent : Nat := 0x7fffffff

/-- Whether a byte is a digit. -/
def isDigit (b : UInt8) : Bool := 0x30 ≤ b && b ≤ 0x39

/-- Takes up digits as long as the number does not grow too large. Gives the number and how many
digits it has taken up. -/
def significand : Nat → Bytes → Nat × Nat
  | n, [] => (n, 0)
  | n, d :: rest =>
    let m := n * 10 + (d.toNat - 0x30)
    if maxSignificand < m then (n, 0)
    else
      let (total, taken) := significand m rest
      (total, taken + 1)

/-- Divides by powers of ten until the exponent is in reach. -/
def scaleDown : Nat → Float → Nat → Float
  | 0, f, _ => f
  | fuel + 1, f, exponent =>
    if exponent ≤ 308 then f / Float.ofScientific 1 false exponent
    else if f == 0.0 then f
    else scaleDown fuel (f / 1e308) (exponent - 308)

/-- The number `significand · 10^exponent`, unless it is out of range. -/
def scaled (significand : Nat) (exponent : Int) : Option Float :=
  let f := (UInt64.ofNat significand).toFloat
  if exponent < 0 then some (scaleDown 12 f exponent.natAbs)
  else if exponent ≤ 308 then
    let f := f * Float.ofScientific 1 false exponent.toNat
    if f.isInf then none else some f
  else if f == 0.0 then some f
  else none

/-- A number with a fraction or an exponent. -/
def real (negative : Bool) (significand : Nat) (exponent : Int) : Decoder Numeral :=
  match scaled significand exponent with
  | some f => return .real (if negative then -f else f)
  | none => fail .numberOutOfRange

/-- Reads the rest of an exponent. -/
def exponentDigits (negative down : Bool) (significand : Nat) (start : Int) :
    Nat → Nat → Decoder Numeral
  | 0, e => real negative significand (if down then start - e else start + e)
  | fuel + 1, e => do
    match ← peek with
    | some d =>
      if isDigit d then
        eat
        let e := e * 10 + (d.toNat - 0x30)
        if maxExponent < e then
          if significand ≠ 0 ∧ !down then fail .numberOutOfRange
          else
            let _ ← span isDigit
            return .real (if negative then -0.0 else 0.0)
        else exponentDigits negative down significand start fuel e
      else real negative significand (if down then start - e else start + e)
    | none => real negative significand (if down then start - e else start + e)

/-- Reads an exponent whose letter is next. -/
def exponent (negative : Bool) (significand : Nat) (start : Int) : Decoder Numeral := do
  eat
  let sign ← peek
  if sign = some 0x2b ∨ sign = some 0x2d then eat
  match ← next with
  | none => fail .eofInValue
  | some d =>
    if isDigit d then
      exponentDigits negative (sign = some 0x2d) significand start ((← get).rest.length + 1)
        (d.toNat - 0x30)
    else fail .invalidNumber

/-- Reads a fraction whose point is next. -/
def fraction (negative : Bool) (whole : Nat) (start : Int) : Decoder Numeral := do
  eat
  let digits ← span isDigit
  if digits.isEmpty then
    match ← peek with
    | some _ => fail .invalidNumber
    | none => fail .eofInValue
  let (n, taken) := significand whole digits
  let start := start - taken
  let mark ← peek
  if mark = some 0x65 ∨ mark = some 0x45 then exponent negative n start
  else real negative n start

/-- Reads a number, its sign excepted. -/
def numeral (negative : Bool) : Decoder Numeral := do
  match ← next with
  | none => fail .eofInValue
  | some d =>
    if !isDigit d then fail .invalidNumber
    else
      if d = 0x30 then
        if let some c ← peek then
          if isDigit c then fail .invalidNumber
      let digits ← if d = 0x30 then pure [] else span isDigit
      let (n, taken) := significand (d.toNat - 0x30) digits
      let dropped : Int := (digits.length : Int) - taken
      let mark ← peek
      if mark = some 0x2e then fraction negative n dropped
      else if mark = some 0x65 ∨ mark = some 0x45 then exponent negative n dropped
      else if dropped ≠ 0 then real negative n dropped
      else if !negative then return .unsigned n
      else if n = 0 ∨ 0x8000000000000000 < n then return .real (-(UInt64.ofNat n).toFloat)
      else return .negative (-(n : Int))

/-- What a number is called in a message. -/
def Numeral.described : Numeral → String
  | unsigned n => "integer \x60" ++ toString n ++ "\x60"
  | negative n => "integer \x60" ++ toString n ++ "\x60"
  | real x => "floating point \x60" ++ Decimal.text x ++ "\x60"

/-! ## Values that are not expected -/

/-- Reports a value of the wrong kind. -/
def wrongType (found expected : String) : Decoder α :=
  reject ("invalid type: " ++ found ++ ", expected " ++ expected)

/-- Reports that the next value is of the wrong kind. A simple value is read for that. -/
def unexpectedValue (expected : String) : Decoder α := located do
  match ← peek with
  | some b =>
    if b = 0x6e then do
      eat; word ['u', 'l', 'l']
      wrongType "null" expected
    else if b = 0x74 then do
      eat; word ['r', 'u', 'e']
      wrongType "boolean \x60true\x60" expected
    else if b = 0x66 then do
      eat; word ['a', 'l', 's', 'e']
      wrongType "boolean \x60false\x60" expected
    else if b = 0x2d then do
      eat
      wrongType (← numeral true).described expected
    else if isDigit b then
      wrongType (← numeral false).described expected
    else if b = 0x22 then
      wrongType ("string " ++ Text.quoted (← textBody)) expected
    else if b = 0x5b then wrongType "sequence" expected
    else if b = 0x7b then wrongType "map" expected
    else fail .expectedValue
  | none => fail .expectedValue

/-- The first byte of a value that has to be there. -/
def valueStart : Decoder UInt8 := do
  match ← peekToken with
  | some b => return b
  | none => fail .eofInValue

/-! ## Simple values -/

/-- A whole number of four bytes. -/
def uint32 : Decoder UInt32 := do
  let b ← valueStart
  if b = 0x2d ∨ isDigit b then
    if b = 0x2d then eat
    let n ← numeral (b = 0x2d)
    located do
      match n with
      | .unsigned v =>
        if v ≤ 0xffffffff then return .ofNat v
        else reject ("invalid value: " ++ n.described ++ ", expected u32")
      | .negative _ => reject ("invalid value: " ++ n.described ++ ", expected u32")
      | .real _ => wrongType n.described "u32"
  else unexpectedValue "u32"

/-- A switch. -/
def boolean : Decoder Bool := do
  let b ← valueStart
  if b = 0x74 then do
    eat; word ['r', 'u', 'e']
    return true
  else if b = 0x66 then do
    eat; word ['a', 'l', 's', 'e']
    return false
  else unexpectedValue "a boolean"

/-- Null or a value. -/
def orNull (d : Decoder α) : Decoder (Option α) := do
  if (← peekToken) = some 0x6e then
    eat; word ['u', 'l', 'l']
    return none
  else some <$> d

/-! ## Names -/

/-- A list of names as it stands in a message. -/
def nameList (names : List String) : String :=
  "one of " ++ ", ".intercalate (names.map fun n => "\x60" ++ n ++ "\x60")

/-- The next text, as one of the names that stand for values. -/
def nameText (names : List (String × α)) : Decoder α := do
  let b ← valueStart
  if b = 0x22 then located do
    let s ← textBody
    match names.lookup s with
    | some a => return a
    | none =>
      reject ("unknown variant \x60" ++ s ++ "\x60, expected " ++ nameList (names.map (·.1)))
  else unexpectedValue "variant identifier"

/-- The colon after a name. -/
def colon : Decoder Unit := do
  match ← peekToken with
  | some b => if b = 0x3a then eat else fail .expectedColon
  | none => fail .eofInObject

/-- One of several names, or an object whose only member is the name with the value null. -/
def oneOf (names : List (String × α)) : Decoder α := do
  let b ← valueStart
  if b = 0x7b then
    eat
    match ← peekToken with
    | some k =>
      if k = 0x7d then fail .expectedValue
      else if k ≠ 0x22 then fail .keyNotString
    | none => fail .eofInObject
    let a ← nameText names
    colon
    let c ← valueStart
    if c = 0x6e then eat; word ['u', 'l', 'l'] else unexpectedValue "unit"
    match ← peekToken with
    | some b => if b = 0x7d then eat; return a else fail .expectedValue
    | none => fail .eofInObject
  else if b = 0x22 then nameText names
  else fail .expectedValue

/-! ## Records -/

/-- A field of a record: its name, and how its value changes the record. -/
structure Field (ρ : Type) where
  name : String
  value : Decoder (ρ → ρ)

/-- The next member's name, unless the object ends here. -/
def memberName? (first : Bool) : Decoder (Option String) := do
  match ← peekToken with
  | none => fail .eofInObject
  | some b =>
    if b = 0x7d then return none
    else if first then
      if b = 0x22 then return some (← textBody) else fail .keyNotString
    else if b = 0x2c then
      eat
      match ← peekToken with
      | none => fail .eofInValue
      | some c =>
        if c = 0x22 then return some (← textBody)
        else if c = 0x7d then fail .trailingComma
        else fail .keyNotString
    else fail .expectedObjectEnd

/-- Reads the members of an object. `unseen` are the fields that did not occur yet; each may occur
once. -/
def members (fields : List (Field ρ)) (unseen : List (Field ρ)) (first : Bool) (r : ρ) :
    Decoder ρ := do
  match ← memberName? first with
  | none => return r
  | some name =>
    match _ : unseen.find? (·.name == name) with
    | some field =>
      colon
      let change ← field.value
      members fields (unseen.eraseP (·.name == name)) false (change r)
    | none =>
      if fields.any (·.name == name) then reject ("duplicate field \x60" ++ name ++ "\x60")
      else
        reject ("unknown field \x60" ++ name ++ "\x60, expected " ++
          nameList (fields.map (·.name)))
termination_by unseen.length
decreasing_by
  have found : unseen.find? (fun f : Field ρ => f.name == name) = some field := by assumption
  have hmem := List.mem_of_find?_eq_some found
  have hlen := List.length_eraseP_of_mem hmem (List.find?_some found)
  have hpos := List.length_pos_of_mem hmem
  omega

/-- Whether a list has one more item. -/
def hasItem (first : Bool) : Decoder Bool := do
  match ← peekToken with
  | none => fail .eofInList
  | some b =>
    if b = 0x5d then return false
    else if first then return true
    else if b = 0x2c then
      eat
      match ← peekToken with
      | none => fail .eofInValue
      | some c => if c = 0x5d then fail .trailingComma else return true
    else fail .expectedListEnd

/-- Reads the fields of a record in order; those that are missing at the end stay as they are. -/
def items : List (Field ρ) → Bool → ρ → Decoder ρ
  | [], _, r => return r
  | field :: rest, first, r => do
    if ← hasItem first then
      let change ← field.value
      items rest false (change r)
    else return r

/-- The end of an object. -/
def objectEnd : Decoder Unit := do
  match ← peekToken with
  | none => fail .eofInObject
  | some b =>
    if b = 0x7d then eat
    else if b = 0x2c then fail .trailingComma
    else fail .trailingCharacters

/-- The end of a list. -/
def listEnd : Decoder Unit := do
  match ← peekToken with
  | none => fail .eofInList
  | some b =>
    if b = 0x5d then eat
    else if b = 0x2c then
      eat
      if (← peekToken) = some 0x5d then fail .trailingComma else fail .trailingCharacters
    else fail .trailingCharacters

/-- Reads what is between brackets, and the closing one. It is looked for even if what is between
them is wrong, which is then what is reported. -/
def closedBy (body : Decoder α) (close : Decoder Unit) : Decoder α := do
  let a : Except JsonError α ← try .ok <$> body catch e => pure (.error e)
  let c : Except JsonError Unit ← try .ok <$> close catch e => pure (.error e)
  match a, c with
  | .error e, _ => throw e
  | .ok _, .error e => throw e
  | .ok a, .ok _ => return a

/-- A record, as an object or as a list of its fields. -/
def record (name : String) (fields : List (Field ρ)) (default : ρ) : Decoder ρ := do
  let b ← valueStart
  if b = 0x5b then located do
    eat
    closedBy (items fields true default) listEnd
  else if b = 0x7b then located do
    eat
    closedBy (members fields fields true default) objectEnd
  else unexpectedValue ("struct " ++ name)

end PacketLog.Decoder
