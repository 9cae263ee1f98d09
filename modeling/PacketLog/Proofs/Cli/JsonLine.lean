import Mathlib
import PacketLog.Cli.Output
import PacketLog.Proofs.Json.Reading

set_option autoImplicit false

/-! # Reading the JSON line of a record

The members of a JSON object have names of their own, so each of them is found under its name even
where others are missing (`JsonValue.member_present`). `Cli.readLine` reads the line of a record in
this way, and gives back its group, its family and its whole summary (`Cli.readLine_jsonText`). -/

namespace PacketLog

namespace JsonValue

/-! ## Values -/

/-- The number without a sign that a value is. -/
def nat? : JsonValue → Option Nat
  | number (.ofNat n) => some n
  | _ => none

/-- The text that a value is. -/
def text? : JsonValue → Option String
  | text s => some s
  | _ => none

/-- The members of a value. -/
def members? : JsonValue → Option (List (String × JsonValue))
  | object members => some members
  | _ => none

def u8? (v : JsonValue) : Option UInt8 := v.nat?.map .ofNat

def u16? (v : JsonValue) : Option UInt16 := v.nat?.map .ofNat

def u32? (v : JsonValue) : Option UInt32 := v.nat?.map .ofNat

def u64? (v : JsonValue) : Option UInt64 := v.nat?.map .ofNat

theorem text?_text (s : String) : (text s).text? = some s := rfl

theorem nat?_ofNat (n : Nat) : (ofNat n).nat? = some n := rfl

theorem u8?_ofNat (n : UInt8) : (ofNat n.toNat).u8? = some n :=
  congrArg some UInt8.ofNat_toNat

theorem u16?_ofNat (n : UInt16) : (ofNat n.toNat).u16? = some n :=
  congrArg some UInt16.ofNat_toNat

theorem u32?_ofNat (n : UInt32) : (ofNat n.toNat).u32? = some n :=
  congrArg some UInt32.ofNat_toNat

theorem u64?_ofNat (n : UInt64) : (ofNat n.toNat).u64? = some n :=
  congrArg some UInt64.ofNat_toNat

/-! ## Members -/

section Members

variable {α : Type} {columns : List (String × Option JsonValue)}

/-- What a member is read as. -/
def member (members : List (String × JsonValue)) (read : JsonValue → Option α) (name : String) :
    Option α :=
  (members.lookup name).bind read

theorem present_none (name : String) : present ((name, none) :: columns) = present columns := rfl

theorem present_some (name : String) (v : JsonValue) :
    present ((name, some v) :: columns) = (name, v) :: present columns := rfl

/-- Only columns give members. -/
theorem lookup_present_of_notMem {name : String} (h : name ∉ columns.map Prod.fst) :
    (present columns).lookup name = none := by
  rw [List.lookup_eq_none_iff]
  rintro ⟨other, value⟩ hmem
  obtain ⟨⟨first, value'⟩, hcolumn, hpresent⟩ := List.mem_filterMap.mp hmem
  obtain ⟨v, -, hv⟩ := Option.map_eq_some_iff.mp hpresent
  obtain ⟨rfl, -⟩ := Prod.mk.inj hv
  rw [bne_iff_ne]
  rintro rfl
  exact h (List.mem_map_of_mem hcolumn)

/-- **A member is found under its name**, if no two columns share a name. -/
theorem lookup_present (hnames : (columns.map Prod.fst).Nodup) (name : String) :
    (present columns).lookup name = (columns.lookup name).join := by
  induction columns with
  | nil => rfl
  | cons column columns ih =>
      obtain ⟨first, value⟩ := column
      rw [List.map_cons, List.nodup_cons] at hnames
      obtain ⟨hfirst, hrest⟩ := hnames
      by_cases hname : name = first
      · subst hname
        rw [List.lookup_cons_self]
        cases value with
        | none =>
            rw [present_none]
            exact lookup_present_of_notMem hfirst
        | some v => exact List.lookup_cons_self
      · have hbeq : (name == first) = false := beq_eq_false_iff_ne.mpr hname
        have hother := ih hrest
        cases value with
        | none => simpa only [present_none, List.lookup_cons, hbeq] using hother
        | some v => simpa only [present_some, List.lookup_cons, hbeq] using hother

/-- So what was written is read, present or absent. -/
theorem member_present (hnames : (columns.map Prod.fst).Nodup) {f : α → JsonValue}
    {read : JsonValue → Option α} (hread : ∀ a, read (f a) = some a) {name : String}
    {value : Option α} (h : columns.lookup name = some (value.map f)) :
    member (present columns) read name = value := by
  rw [member, lookup_present hnames, h, Option.join_some]
  cases value with
  | none => rfl
  | some a => exact hread a

end Members

end JsonValue

/-! ## Summaries -/

open JsonValue (member nat? text? u8? u16? u32? u64?)

/-- The time that a value holds. -/
def Timestamp.ofJson? (v : JsonValue) : Option Timestamp := do
  let members ← v.members?
  return { sec := ← member members u64? "sec", usec := ← member members u64? "usec" }

theorem Timestamp.ofJson?_object (t : Timestamp) :
    Timestamp.ofJson?
      (.object [("sec", .ofNat t.sec.toNat), ("usec", .ofNat t.usec.toNat)]) = some t := by
  let members : List (String × JsonValue) :=
    [("sec", .ofNat t.sec.toNat), ("usec", .ofNat t.usec.toNat)]
  have hsec : member members u64? "sec" = some t.sec := JsonValue.u64?_ofNat t.sec
  have husec : member members u64? "usec" = some t.usec := JsonValue.u64?_ofNat t.usec
  rw [ofJson?, JsonValue.members?]
  simp only [Option.bind_eq_bind, Option.bind_some, hsec, husec, members]
  rfl

/-- The summary that members hold. Others among them do not matter. -/
def RecordSummary.ofMembers (members : List (String × JsonValue)) : RecordSummary where
  hwProtocol := member members u16? "hw_protocol"
  hook := member members u8? "hook"
  logPrefix := member members text? "prefix"
  mark := member members u32? "mark"
  inDevice := member members u32? "indev"
  outDevice := member members u32? "outdev"
  physInDevice := member members u32? "physindev"
  physOutDevice := member members u32? "physoutdev"
  uid := member members u32? "uid"
  gid := member members u32? "gid"
  seq := member members u32? "seq"
  seqGlobal := member members u32? "seq_global"
  connectionId := member members u32? "ct_id"
  hwAddr := member members text? "hw_addr"
  timestamp := member members Timestamp.ofJson? "timestamp"
  payloadLen := member members nat? "payload_len"

namespace Cli

/-- What the JSON line of a record says: its group and family, and its fields. -/
structure LineContent where
  group : UInt16
  family : UInt8
  summary : RecordSummary
  deriving DecidableEq

/-- Reads the JSON line of a record. -/
def readLine (line : String) : Option LineContent := do
  let members ← (← JsonValue.read line).members?
  return { group := ← member members u16? "group", family := ← member members u8? "family"
           summary := .ofMembers members }

/-- The members of the line, present or absent. -/
def columns (header : GroupHeader) (s : RecordSummary) : List (String × Option JsonValue) :=
  ("group", some (.ofNat header.group.toNat)) :: ("family", some (.ofNat header.family.toNat)) ::
    [("hw_protocol", s.hwProtocol.map fun n => .ofNat n.toNat),
    ("hook", s.hook.map fun n => .ofNat n.toNat),
    ("prefix", s.logPrefix.map .text),
    ("mark", s.mark.map fun n => .ofNat n.toNat),
    ("indev", s.inDevice.map fun n => .ofNat n.toNat),
    ("outdev", s.outDevice.map fun n => .ofNat n.toNat),
    ("physindev", s.physInDevice.map fun n => .ofNat n.toNat),
    ("physoutdev", s.physOutDevice.map fun n => .ofNat n.toNat),
    ("uid", s.uid.map fun n => .ofNat n.toNat),
    ("gid", s.gid.map fun n => .ofNat n.toNat),
    ("seq", s.seq.map fun n => .ofNat n.toNat),
    ("seq_global", s.seqGlobal.map fun n => .ofNat n.toNat),
    ("ct_id", s.connectionId.map fun n => .ofNat n.toNat),
    ("hw_addr", s.hwAddr.map .text),
    ("timestamp", s.timestamp.map fun t =>
      .object [("sec", .ofNat t.sec.toNat), ("usec", .ofNat t.usec.toNat)]),
    ("payload_len", s.payloadLen.map .ofNat)]

theorem jsonText_eq (header : GroupHeader) (s : RecordSummary) :
    jsonText header s = (JsonValue.object (JsonValue.present (columns header s))).render := rfl

theorem nodup_columns (header : GroupHeader) (s : RecordSummary) :
    ((columns header s).map Prod.fst).Nodup := by
  simp only [columns, List.map_cons, List.map_nil]
  decide

section Columns

variable {header : GroupHeader} {s : RecordSummary}

theorem member_columns {α : Type} {f : α → JsonValue} {read : JsonValue → Option α}
    (hread : ∀ a, read (f a) = some a) {name : String} {value : Option α}
    (h : (columns header s).lookup name = some (value.map f)) :
    member (JsonValue.present (columns header s)) read name = value :=
  JsonValue.member_present (nodup_columns header s) hread h

theorem ofMembers_columns :
    RecordSummary.ofMembers (JsonValue.present (columns header s)) = s := by
  obtain ⟨hwProtocol, hook, logPrefix, mark, inDevice, outDevice, physInDevice, physOutDevice, uid,
    gid, seq, seqGlobal, connectionId, hwAddr, timestamp, payloadLen⟩ := s
  rw [RecordSummary.ofMembers, RecordSummary.mk.injEq]
  -- the numbers of 32 bits stand between the prefix and the address
  refine ⟨member_columns JsonValue.u16?_ofNat rfl, member_columns JsonValue.u8?_ofNat rfl,
    member_columns JsonValue.text?_text rfl, ?_, ?_, ?_, ?_, ?_, ?_, ?_, ?_, ?_, ?_,
    member_columns JsonValue.text?_text rfl, member_columns Timestamp.ofJson?_object rfl,
    member_columns JsonValue.nat?_ofNat rfl⟩
  iterate 10 exact member_columns JsonValue.u32?_ofNat rfl

end Columns

/-- **The JSON line of a record gives back what it shows**: the group, the family, and every field
of the summary. -/
theorem readLine_jsonText (header : GroupHeader) (s : RecordSummary) :
    readLine (jsonText header s) =
      some { group := header.group, family := header.family, summary := s } := by
  have hgroup : member (JsonValue.present (columns header s)) u16? "group" = some header.group :=
    member_columns JsonValue.u16?_ofNat rfl
  have hfamily : member (JsonValue.present (columns header s)) u8? "family" = some header.family :=
    member_columns JsonValue.u8?_ofNat rfl
  rw [jsonText_eq, readLine, JsonValue.read_render]
  simp only [Option.bind_eq_bind, Option.bind_some, JsonValue.members?, hgroup, hfamily,
    ofMembers_columns]
  rfl

end Cli

end PacketLog
