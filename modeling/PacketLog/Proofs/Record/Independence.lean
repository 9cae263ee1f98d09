import Mathlib
import PacketLog.Proofs.Record.Inquiry
import PacketLog.Proofs.Wire.Index

set_option autoImplicit false

/-! # Fields do not affect each other

A field is decoded from the last attribute of one type, and from nothing else. So two records that
agree on the last payload of a type agree on every field that is read from it, whatever else their
bytes hold; and they have the same summary and the same documents as long as these do not ask for a
type on which the records differ (`fields_are_independent`). -/

namespace PacketLog

namespace Attr

/-- The payload of the last attribute of a type in some bytes. -/
def lastPayload (kind : UInt16) (bytes : Bytes) : Option Bytes :=
  (lastOf kind (scanned bytes)).map payload

section LastOf

variable {kind : UInt16} {attrs later : List Attr}

theorem lastOf_append (kind : UInt16) (attrs later : List Attr) :
    lastOf kind (attrs ++ later) = (lastOf kind later).or (lastOf kind attrs) := by
  rw [lastOf, List.filter_append, List.getLast?_append]
  rfl

theorem lastOf_eq_none_iff : lastOf kind attrs = none ↔ kind ∉ attrs.map Attr.kind := by
  rw [← exists_lastOf_iff, Option.eq_none_iff_forall_ne_some, not_exists]

/-- **Among attributes of distinct types** their order does not matter. -/
theorem lastOf_perm (hperm : attrs.Perm later) (hdistinct : (attrs.map Attr.kind).Nodup)
    (kind : UInt16) : lastOf kind attrs = lastOf kind later := by
  have hdistinct' : (later.map Attr.kind).Nodup := (hperm.map Attr.kind).nodup_iff.mp hdistinct
  refine Option.ext fun a => ?_
  rw [lastOf_eq_some_iff hdistinct, lastOf_eq_some_iff hdistinct', hperm.mem_iff]

end LastOf

/-! ## Edits -/

/-- **A change of a sequence of attributes** that shows under the types in `changed` only. -/
inductive Edit : Set UInt16 → List Cell → List Cell → Prop
  /-- Attributes of distinct types stand in another order. -/
  | reorder {before cells cells' after : List Cell} (hperm : cells.Perm cells')
      (hdistinct : (cells.map (·.attr.kind)).Nodup) :
      Edit ∅ (before ++ cells ++ after) (before ++ cells' ++ after)
  /-- Attributes that a record does not index are put in. -/
  | insert {before inserted after : List Cell}
      (houtside : ∀ c ∈ inserted, ¬ AttrTable.Indexes Field.last c.attr.kind) :
      Edit ∅ (before ++ after) (before ++ inserted ++ after)
  /-- Attributes are put in front of others of the same types. -/
  | precede {before inserted after : List Cell}
      (hlater : ∀ c ∈ inserted, ∃ d ∈ after, d.attr.kind = c.attr.kind) :
      Edit ∅ (before ++ after) (before ++ inserted ++ after)
  /-- An attribute gets another payload. -/
  | replace {before after : List Cell} {c c' : Cell} (hkind : c'.attr.kind = c.attr.kind) :
      Edit {c.attr.kind} (before ++ c :: after) (before ++ c' :: after)

/-- **An edit does not show** under a type that it does not touch. -/
theorem lastOf_edit {changed : Set UInt16} {cells cells' : List Cell} (h : Edit changed cells cells')
    {kind : UInt16} (hkind : kind ∉ changed) (hindexed : AttrTable.Indexes Field.last kind) :
    lastOf kind (cells.map Cell.attr) = lastOf kind (cells'.map Cell.attr) := by
  cases h with
  | @reorder before segment segment' after hperm hdistinct =>
      have hsegment := lastOf_perm (hperm.map Cell.attr) (by rwa [List.map_map]) kind
      simp only [List.map_append, lastOf_append, hsegment]
  | @insert before inserted after houtside =>
      have hnone : lastOf kind (inserted.map Cell.attr) = none := by
        rw [lastOf_eq_none_iff, List.map_map, List.mem_map]
        rintro ⟨c, hc, rfl⟩
        exact houtside c hc hindexed
      simp only [List.map_append, lastOf_append, hnone, Option.none_or]
  | @precede before inserted after hlater =>
      simp only [List.map_append, lastOf_append]
      -- either something behind hides what is put in, or nothing is put in under this type
      by_cases hafter : kind ∈ (after.map Cell.attr).map Attr.kind
      · obtain ⟨a, ha⟩ := exists_lastOf_iff.mpr hafter
        rw [ha, Option.some_or, Option.some_or]
      · have hnone : lastOf kind (inserted.map Cell.attr) = none := by
          rw [lastOf_eq_none_iff, List.map_map, List.mem_map]
          rintro ⟨c, hc, rfl⟩
          obtain ⟨d, hd, hsame⟩ := hlater c hc
          rw [List.map_map] at hafter
          exact hafter (List.mem_map.mpr ⟨d, hd, hsame⟩)
        rw [hnone, Option.none_or]
  | @replace before after c c' hsame =>
      have hne : c.attr.kind ≠ kind := fun h => hkind h.symm
      have hne' : c'.attr.kind ≠ kind := hsame ▸ hne
      simp only [lastOf, List.map_append, List.map_cons, List.filter_append, hne, hne',
        decide_false, Bool.false_eq_true, not_false_eq_true, List.filter_cons_of_neg]

end Attr

namespace LogRecord

open Attr (lastPayload lastOf)

variable {bytes : Bytes} {r r' : LogRecord}

/-! ## What a record is made of -/

/-- **The attributes of a record** are the index of those that the scanner yields. -/
theorem indexOf_of_parse (h : parse bytes = .ok r) :
    r.attrs.maxKind = Field.last ∧ r.attrs.depth = 0 ∧
      ∃ attrs : List Attr, Attr.scan bytes = attrs.map .ok ∧ AttrTable.IndexOf attrs r.attrs := by
  have hparse : AttrTable.parse bytes Field.last = .ok r.attrs := by
    rw [parse] at h
    cases htable : AttrTable.parse bytes Field.last with
    | error e =>
        rw [htable] at h
        cases h
    | ok t =>
        rw [htable] at h
        cases h
        rfl
  exact (AttrTable.reads_parseAt bytes Field.last (Nat.zero_le _)).indexes r.attrs hparse

/-- **A record finds the last payload of each type** that it indexes. -/
theorem get_of_parse (h : parse bytes = .ok r) (kind : UInt16) :
    r.attrs.get kind =
      if AttrTable.Indexes Field.last kind then lastPayload kind bytes else none := by
  obtain ⟨hmax, -, attrs, hscan, hindex⟩ := indexOf_of_parse h
  rw [lastPayload, Attr.scanned_of_scan hscan, AttrTable.get]
  split
  · rename_i hindexed
    rw [hindex.attr kind (hmax ▸ hindexed)]
  · rename_i houtside
    rw [hindex.outside kind (hmax ▸ houtside)]
    rfl

/-! ## Fields -/

/-- **The records agree on every field that is read from the type `kind`**, be it a value or an
error. -/
structure SameAt (kind : UInt16) (r r' : LogRecord) : Prop where
  packetHeader : kind = Field.packetHeader → r.packetHeader = r'.packetHeader
  mark : kind = Field.mark → r.mark = r'.mark
  timestamp : kind = Field.timestamp → r.timestamp = r'.timestamp
  inDevice : kind = Field.inDevice → r.inDevice = r'.inDevice
  outDevice : kind = Field.outDevice → r.outDevice = r'.outDevice
  physInDevice : kind = Field.physInDevice → r.physInDevice = r'.physInDevice
  physOutDevice : kind = Field.physOutDevice → r.physOutDevice = r'.physOutDevice
  hwAddr : kind = Field.hwAddr → r.hwAddr = r'.hwAddr
  payload : kind = Field.payload → r.payload = r'.payload
  logPrefix : kind = Field.logPrefix → r.logPrefix = r'.logPrefix
  uid : kind = Field.uid → r.uid = r'.uid
  seq : kind = Field.seq → r.seq = r'.seq
  seqGlobal : kind = Field.seqGlobal → r.seqGlobal = r'.seqGlobal
  gid : kind = Field.gid → r.gid = r'.gid
  hwType : kind = Field.hwType → r.hwType = r'.hwType
  hwHeader : kind = Field.hwHeader → r.hwHeader = r'.hwHeader
  hwHeaderLen : kind = Field.hwHeaderLen → r.hwHeaderLen = r'.hwHeaderLen
  conntrackInfo : kind = Field.conntrackInfo → r.conntrackInfo = r'.conntrackInfo
  connectionId : kind = Field.conntrack → r.connectionId = r'.connectionId
  conntrack : kind = Field.conntrack → r.conntrack = r'.conntrack

theorem exact_congr {kind : UInt16} (h : r.attrs.get kind = r'.attrs.get kind) (width : Nat) :
    r.attrs.exact kind width = r'.attrs.exact kind width := by
  rw [AttrTable.exact, AttrTable.exact, h]

/-- **A field is decoded from the payload of its type** alone. A nested table also knows how deep it
stands. -/
theorem sameAt_of_get {kind : UInt16} (h : r.attrs.get kind = r'.attrs.get kind)
    (hdepth : r.attrs.depth = r'.attrs.depth) : SameAt kind r r' := by
  have hfixed {α : Type} (width : Nat) (decode : Bytes → α) :
      r.fixed kind width decode = r'.fixed kind width decode := by
    rw [fixed, fixed, exact_congr h]
  have h32 : r.attrs.uint32 kind = r'.attrs.uint32 kind := by
    rw [AttrTable.uint32, AttrTable.uint32, AttrTable.number, AttrTable.number, exact_congr h]
  have h16 : r.attrs.uint16 kind = r'.attrs.uint16 kind := by
    rw [AttrTable.uint16, AttrTable.uint16, AttrTable.number, AttrTable.number, exact_congr h]
  constructor
  case packetHeader => rintro rfl; exact hfixed 4 _
  case timestamp => rintro rfl; exact hfixed 16 _
  case hwAddr => rintro rfl; exact hfixed 12 _
  case payload => rintro rfl; exact h
  case hwHeader => rintro rfl; exact h
  case hwType => rintro rfl; exact h16
  case hwHeaderLen => rintro rfl; exact h16
  case logPrefix => rintro rfl; rw [LogRecord.logPrefix, LogRecord.logPrefix, h]
  case connectionId => rintro rfl; rw [LogRecord.connectionId, LogRecord.connectionId, h]
  case conntrack =>
    rintro rfl
    rw [LogRecord.conntrack, LogRecord.conntrack, AttrTable.nested, AttrTable.nested, h, hdepth]
  all_goals rintro rfl; exact h32

/-! ## All that is decoded -/

/-- **The records agree on everything that does not ask for a type in `changed`.** -/
structure SameOutside (changed : Set UInt16) (r r' : LogRecord) : Prop where
  fields : ∀ kind, kind ∉ changed → SameAt kind r r'
  summary : (∀ kind ∈ Inquiry.summary.asked r.attrs.get, kind ∉ changed) → r.summary = r'.summary
  render : ∀ flags now,
    (∀ kind ∈ (Inquiry.document flags now).asked r.attrs.get, kind ∉ changed) →
      ∀ buffer, r.render buffer flags now = r'.render buffer flags now
  document : ∀ flags now,
    (∀ kind ∈ (Inquiry.document flags now).asked r.attrs.get, kind ∉ changed) →
      r.document flags now = r'.document flags now

theorem sameOutside_of_get {changed : Set UInt16}
    (h : ∀ kind, kind ∉ changed → r.attrs.get kind = r'.attrs.get kind)
    (hdepth : r.attrs.depth = r'.attrs.depth) : SameOutside changed r r' := by
  have hrender (flags : XmlFlags) (now : CalendarTime)
      (hasked : ∀ kind ∈ (Inquiry.document flags now).asked r.attrs.get, kind ∉ changed)
      (buffer : Bytes) : r.render buffer flags now = r'.render buffer flags now := by
    have hfragments : r.fragments flags now = r'.fragments flags now := by
      rw [fragments_eq_run, fragments_eq_run]
      exact Inquiry.run_congr _ fun kind hkind => h kind (hasked kind hkind)
    rw [LogRecord.render, LogRecord.render, hfragments]
  constructor
  case fields => exact fun kind hkind => sameAt_of_get (h kind hkind) hdepth
  case summary =>
    intro hasked
    rw [summary_eq_run, summary_eq_run]
    exact Inquiry.run_congr _ fun kind hkind => h kind (hasked kind hkind)
  case render => exact hrender
  case document =>
    intro flags now hasked
    simp only [LogRecord.document, hrender flags now hasked]

end LogRecord

open Attr in
/-- **Decoding one field never affects another.** Whatever two records are made of, they agree on
everything that does not ask for a type whose last payload is not the same in both. So if attributes
of distinct types are put into another order, if attributes that are not indexed are put in, or
others in front of their like, or if an attribute gets another payload, nothing changes but what
asks for the type of that last one. -/
theorem fields_are_independent :
    (∀ bytes bytes' r r', LogRecord.parse bytes = .ok r → LogRecord.parse bytes' = .ok r' →
      LogRecord.SameOutside {kind | lastPayload kind bytes ≠ lastPayload kind bytes'} r r') ∧
    ∀ changed cells cells', Edit changed cells cells' → Sequence cells → Sequence cells' →
      ∃ r r', LogRecord.parse (joined cells) = .ok r ∧ LogRecord.parse (joined cells') = .ok r' ∧
        LogRecord.SameOutside changed r r' := by
  constructor
  · intro bytes bytes' r r' hr hr'
    refine LogRecord.sameOutside_of_get (fun kind hkind => ?_) ?_
    · rw [LogRecord.get_of_parse hr, LogRecord.get_of_parse hr', not_not.mp hkind]
    · rw [(LogRecord.indexOf_of_parse hr).2.1, (LogRecord.indexOf_of_parse hr').2.1]
  · intro changed cells cells' hedit hcells hcells'
    have hscan := scan_sequence_eq_map hcells
    have hscan' := scan_sequence_eq_map hcells'
    have hparse : LogRecord.parse (joined cells) = _ :=
      congrArg (Except.map LogRecord.mk) (AttrTable.parse_of_scan hscan Field.last)
    have hparse' : LogRecord.parse (joined cells') = _ :=
      congrArg (Except.map LogRecord.mk) (AttrTable.parse_of_scan hscan' Field.last)
    refine ⟨_, _, hparse, hparse', LogRecord.sameOutside_of_get (fun kind hkind => ?_) ?_⟩
    · rw [LogRecord.get_of_parse hparse, LogRecord.get_of_parse hparse']
      split
      · rename_i hindexed
        rw [lastPayload, lastPayload, scanned_of_scan hscan, scanned_of_scan hscan',
          lastOf_edit hedit hkind hindexed]
      · rfl
    · rw [(LogRecord.indexOf_of_parse hparse).2.1, (LogRecord.indexOf_of_parse hparse').2.1]

end PacketLog
