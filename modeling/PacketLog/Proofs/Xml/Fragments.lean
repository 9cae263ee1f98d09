import Mathlib
import PacketLog.Proofs.Wire.Forest
import PacketLog.Proofs.Xml.Escape

set_option autoImplicit false

/-! # The fragments of a document

A document is written fragment by fragment: some before the log prefix, the log prefix, and some
behind it (`LogRecord.fragments_eq`). Every fragment but that of the log prefix is a whole piece of
markup with tags of its own (`Xml.Piece`), and which these are does not depend on the log prefix
(`LogRecord.fragmentsBehind_congr`). -/

namespace PacketLog

namespace Xml

/-! ## Numerals -/

/-- A printable ASCII character that is none of markup and no ampersand. -/
def IsWordChar (c : Char) : Prop :=
  0x20 ≤ c.toNat ∧ c.toNat ≤ 0x7e ∧ c ≠ '&' ∧ c ≠ '<' ∧ c ≠ '>'

instance (c : Char) : Decidable (IsWordChar c) := inferInstanceAs (Decidable (_ ∧ _))

/-- **A text of such characters**, as numerals are. -/
def Word (text : List Char) : Prop := ∀ c ∈ text, IsWordChar c

instance (text : List Char) : Decidable (Word text) := List.decidableBAll IsWordChar text

theorem Word.append {a b : List Char} (ha : Word a) (hb : Word b) : Word (a ++ b) :=
  List.forall_mem_append.mpr ⟨ha, hb⟩

/-- A word is without markup. -/
theorem Word.plain {text : List Char} (h : Word text) : Plain text :=
  ⟨fun hmem => (h _ hmem).2.2.2.1 rfl, fun hmem => (h _ hmem).2.2.2.2 rfl⟩

theorem isWordChar_digitChar (n : Nat) : IsWordChar (Nat.digitChar n) := by
  rcases Nat.lt_or_ge n 16 with hn | hn
  · revert n
    decide
  · have hstar : Nat.digitChar n = '*' := by
      unfold Nat.digitChar
      repeat rw [if_neg (by omega)]
    rw [hstar]
    decide

theorem word_toDigits {base : Nat} (hbase : 1 < base) (n : Nat) : Word (Nat.toDigits base n) := by
  induction n using Nat.strongRecOn with
  | ind n ih =>
      by_cases hn : n < base
      · rw [Nat.toDigits_of_lt_base hn]
        exact List.forall_mem_singleton.mpr (isWordChar_digitChar n)
      · have hlt : n / base < n := Nat.div_lt_self (by omega) hbase
        rw [Nat.toDigits_of_base_le hbase (Nat.not_lt.mp hn)]
        exact (ih _ hlt).append (List.forall_mem_singleton.mpr (isWordChar_digitChar _))

theorem word_toString (n : Nat) : Word (toString n).toList := by
  rw [Nat.toString_eq_ofList_toDigits, String.toList_ofList]
  exact word_toDigits (by decide) n

theorem word_toString_int (n : Int) : Word (toString n).toList := by
  cases n with
  | ofNat n => exact word_toString n
  | negSucc n =>
      show Word ("-" ++ (n.succ).repr).toList
      rw [String.toList_append]
      exact Word.append (by decide) (word_toString n.succ)

theorem word_padLeft {s : String} (h : Word s.toList) (width : Nat) :
    Word (Text.padLeft width '0' s).toList := by
  rw [Text.padLeft, String.toList_append, String.toList_ofList]
  refine Word.append ?_ h
  intro c hc
  rw [List.eq_of_mem_replicate hc]
  decide

theorem word_twoDigits (n : Nat) : Word (twoDigits n).toList := word_padLeft (word_toString n) 2

theorem word_hexPadded (width n : Nat) : Word (Text.hexPadded width n).toList := by
  refine word_padLeft ?_ width
  rw [Text.hexNat, String.toList_ofList]
  exact word_toDigits (by decide) n

theorem word_hexByte (b : UInt8) : Word (Text.hexByte b).toList := by
  rw [Text.hexByte, String.toList_ofList]
  exact List.forall_mem_cons.mpr
    ⟨isWordChar_digitChar _, List.forall_mem_singleton.mpr (isWordChar_digitChar _)⟩

/-! ## Pieces of markup -/

/-- The name of the element of the log prefix. -/
def prefixName : List Char := ['p', 'r', 'e', 'f', 'i', 'x']

/-- The tag before the log prefix. -/
def prefixStart : List Char := tag prefixName

/-- The tag behind the log prefix. -/
def prefixEnd : List Char := tag ('/' :: prefixName)

/-- A tag without a `<` inside that stands on no side of the log prefix. -/
def Other (t : List Char) : Prop := '<' ∉ t.tail ∧ t ≠ prefixStart ∧ t ≠ prefixEnd

instance (t : List Char) : Decidable (Other t) := inferInstanceAs (Decidable (_ ∧ _))

/-- **A whole piece of markup** that has nothing to do with the log prefix. -/
structure Piece (s : String) : Prop where
  nonempty : s ≠ ""
  closed : Closed s.toList
  tags : ∀ t ∈ tags s.toList, Other t

instance (s : String) : Decidable (Piece s) :=
  decidable_of_iff (s ≠ "" ∧ Closed s.toList ∧ ∀ t ∈ tags s.toList, Other t)
    ⟨fun ⟨h, h', h''⟩ => ⟨h, h', h''⟩, fun ⟨h, h', h''⟩ => ⟨h, h', h''⟩⟩

theorem Piece.append {a b : String} (ha : Piece a) (hb : Piece b) : Piece (a ++ b) where
  nonempty := by
    intro h
    exact ha.nonempty (String.append_eq_empty_iff.mp h).1
  closed := by
    rw [String.toList_append]
    exact ha.closed.append hb.closed
  tags := by
    rw [String.toList_append, tags_append ha.closed]
    exact List.forall_mem_append.mpr ⟨ha.tags, hb.tags⟩

theorem Piece.of_plain {s : String} (hne : s ≠ "") (h : Plain s.toList) : Piece s where
  nonempty := hne
  closed := h.closed_tags.1
  tags := by
    rw [h.closed_tags.2]
    exact List.forall_mem_nil _

/-- A name that an element can have whose tags are not those of the log prefix. -/
def IsName (name : List Char) : Prop :=
  '>' ∉ name ∧ Other (tag name) ∧ Other (tag ('/' :: name))

instance (name : List Char) : Decidable (IsName name) := inferInstanceAs (Decidable (_ ∧ _))

theorem toList_element (name text : String) :
    (element name text).toList = tag name.toList ++ (text.toList ++ tag ('/' :: name.toList)) := by
  simp [element, tag]

/-- **An element** has two tags, if its text is without markup. -/
theorem closed_tags_element {name text : String} (hname : '>' ∉ name.toList)
    (htext : Plain text.toList) :
    Closed (element name text).toList ∧
      tags (element name text).toList = [tag name.toList, tag ('/' :: name.toList)] := by
  have hend : '>' ∉ '/' :: name.toList := by simpa using hname
  obtain ⟨hstart_closed, -⟩ := closed_tags_tag hname
  obtain ⟨hend_closed, hend_tags⟩ := closed_tags_tag hend
  obtain ⟨htext_closed, htext_tags⟩ := htext.closed_tags
  rw [toList_element]
  constructor
  · exact hstart_closed.append (htext_closed.append hend_closed)
  · rw [tags_tag_append hname, tags_append htext_closed, htext_tags, hend_tags, List.nil_append]

theorem element_ne_empty (name text : String) : element name text ≠ "" := by
  intro h
  have hchars := congrArg String.toList h
  rw [toList_element] at hchars
  cases hchars

theorem piece_element {name text : String} (hname : IsName name.toList)
    (htext : Plain text.toList) : Piece (element name text) := by
  obtain ⟨hgt, hstart, hend⟩ := hname
  obtain ⟨hclosed, htags⟩ := closed_tags_element hgt htext
  exact {
    nonempty := element_ne_empty name text
    closed := hclosed
    tags := by
      rw [htags]
      exact List.forall_mem_cons.mpr ⟨hstart, List.forall_mem_singleton.mpr hend⟩ }

/-! ## The pieces of a document -/

theorem pieces_when (t : CalendarTime) : ∀ s ∈ whenFragments t, Piece s := by
  simp only [whenFragments, List.forall_mem_cons, List.not_mem_nil, false_imp_iff, implies_true,
    and_true]
  exact ⟨by decide, piece_element (by decide) (word_toString _).plain,
    piece_element (by decide) (word_twoDigits _).plain, piece_element (by decide) (word_twoDigits _).plain,
    piece_element (by decide) (word_toString _).plain, piece_element (by decide) (word_toString _).plain,
    piece_element (by decide) (word_toString _).plain, piece_element (by decide) (word_toString_int _).plain,
    by decide⟩

theorem piece_hexByte (b : UInt8) : Piece (Text.hexByte b) := by
  refine Piece.of_plain ?_ (word_hexByte b).plain
  intro h
  have := congrArg String.toList h
  rw [Text.hexByte, String.toList_ofList] at this
  cases this

theorem pieces_hw (protocol : UInt16) (address : Option HwAddr) :
    ∀ s ∈ hwFragments protocol address, Piece s := by
  have hproto : Piece ("<hw>" ++ element "proto" (Text.hexPadded 4 protocol.toNat)) :=
    Piece.append (by decide) (piece_element (by decide) (word_hexPadded 4 _).plain)
  cases address with
  | none => exact List.forall_mem_singleton.mpr (hproto.append (by decide))
  | some a =>
      simp only [hwFragments, List.forall_mem_append, List.forall_mem_cons, List.forall_mem_map]
      exact ⟨⟨⟨hproto, by decide, List.forall_mem_nil _⟩, fun b _ => piece_hexByte b⟩,
        by decide, List.forall_mem_nil _⟩

theorem pieces_payload (payload : Bytes) : ∀ s ∈ payloadFragments payload, Piece s := by
  simp only [payloadFragments, List.forall_mem_append, List.forall_mem_map]
  exact ⟨⟨by decide, fun b _ => piece_hexByte b⟩, by decide⟩

theorem pieces_nonzero {name : String} (hname : IsName name.toList) (n : Option UInt32) :
    ∀ s ∈ nonzeroElement name n, Piece s := by
  cases n with
  | none => exact List.forall_mem_nil _
  | some n =>
      rw [nonzeroElement]
      split_ifs with hzero
      · exact List.forall_mem_nil _
      · exact List.forall_mem_singleton.mpr (piece_element hname (word_toString n.toNat).plain)

/-! ## Fields that may fail -/

/-- **Every fragment that comes out**, if any do, is a piece of markup of its own. -/
def Yields (fragments : Except WireError (List String)) : Prop :=
  ∀ out, fragments = .ok out → ∀ s ∈ out, Piece s

theorem yields_ok {fragments : List String} (h : ∀ s ∈ fragments, Piece s) :
    Yields (.ok fragments) := by
  rintro _ ⟨⟩
  exact h

/-- Fragments that are made from a field. -/
theorem yields_bind {α : Type} {field : Except WireError α}
    {make : α → Except WireError (List String)} (h : ∀ a, Yields (make a)) :
    Yields (field >>= make) := by
  intro out hout
  obtain ⟨a, -, ha⟩ := exists_ok_of_bind hout
  exact h a out ha

/-- Fragments that are put behind others. -/
theorem Yields.bind {first : Except WireError (List String)}
    {make : List String → Except WireError (List String)} (hfirst : Yields first)
    (h : ∀ out, (∀ s ∈ out, Piece s) → Yields (make out)) : Yields (first >>= make) := by
  intro out hout
  obtain ⟨before, hbefore, hmake⟩ := exists_ok_of_bind hout
  exact h before (hfirst before hbefore) out hmake

theorem Yields.selected {fragments : Except WireError (List String)} (h : Yields fragments)
    (flags flag : XmlFlags) : Yields (LogRecord.selected flags flag fragments) := by
  rw [LogRecord.selected]
  split_ifs
  · exact h
  · exact yields_ok (List.forall_mem_nil _)

end Xml

/-! ## Before and behind the log prefix -/

namespace LogRecord

open Xml

variable (r : LogRecord) (flags : XmlFlags) (now : CalendarTime)

/-- The fragments before the log prefix. -/
def fragmentsBefore : List String :=
  "<log>" :: (if flags.contains .time then whenFragments now else [])

/-- The fragment of the log prefix, if it is selected and present. -/
def prefixFragments : Except WireError (List String) :=
  selected flags .logPrefix do
    return (← r.logPrefix).toList.map fun s => element "prefix" (escape s)

/-- The fragments behind the log prefix. -/
def fragmentsBehind : Except WireError (List String) := do
  let hook ← r.hookFragments flags
  let mark ← selected flags .mark do
    return nonzeroElement "mark" (← r.mark)
  let devices ← selected flags .device do
    let inDevice ← r.inDevice
    let outDevice ← r.outDevice
    return nonzeroElement "indev" inDevice ++ nonzeroElement "outdev" outDevice
  let physDevices ← selected flags .physDevice do
    let inDevice ← r.physInDevice
    let outDevice ← r.physOutDevice
    return nonzeroElement "physindev" inDevice ++ nonzeroElement "physoutdev" outDevice
  let connection ← selected flags .connectionId do
    return (← r.connectionId).toList.map fun n => element "ctid" (toString n)
  let payload :=
    if flags.contains .payload then (r.payload.map payloadFragments).getD [] else []
  return hook ++ mark ++ devices ++ physDevices ++ connection ++ payload ++ ["</log>"]

/-- **The log prefix stands between the other fragments.** -/
theorem fragments_eq :
    r.fragments flags now = (do
      let logPrefix ← r.prefixFragments flags
      let behind ← r.fragmentsBehind flags
      return fragmentsBefore flags now ++ logPrefix ++ behind) := by
  simp only [fragments, prefixFragments, fragmentsBehind, fragmentsBefore, bind_assoc, pure_bind,
    List.append_assoc, List.cons_append, List.nil_append]

theorem pieces_before : ∀ s ∈ fragmentsBefore flags now, Piece s := by
  refine List.forall_mem_cons.mpr ⟨by decide, ?_⟩
  split_ifs
  · exact pieces_when now
  · exact List.forall_mem_nil _

theorem yields_hook : Yields (r.hookFragments flags) := by
  refine yields_bind fun header => ?_
  cases header with
  | none => exact yields_ok (List.forall_mem_nil _)
  | some header =>
      have hhw : Yields (selected flags .hw do
          return hwFragments header.hwProtocol (← r.hwAddr)) :=
        Yields.selected (yields_bind fun address => yields_ok (pieces_hw _ address)) flags .hw
      refine hhw.bind fun hw hpieces => yields_ok ?_
      exact List.forall_mem_cons.mpr
        ⟨piece_element (by decide) (word_toString header.hook.toNat).plain, hpieces⟩

theorem yields_mark : Yields (do return nonzeroElement "mark" (← r.mark)) :=
  yields_bind fun mark => yields_ok (pieces_nonzero (by decide) mark)

/-- The two devices of a packet, under either pair of names. -/
theorem yields_devices {inName outName : String} (hin : IsName inName.toList)
    (hout : IsName outName.toList) (inDevice outDevice : Except WireError (Option UInt32)) :
    Yields (do
      let a ← inDevice
      let b ← outDevice
      return nonzeroElement inName a ++ nonzeroElement outName b) :=
  yields_bind fun a => yields_bind fun b =>
    yields_ok (List.forall_mem_append.mpr ⟨pieces_nonzero hin a, pieces_nonzero hout b⟩)

theorem yields_connection :
    Yields (do return (← r.connectionId).toList.map fun n => element "ctid" (toString n)) :=
  yields_bind fun _ => yields_ok (List.forall_mem_map.mpr fun n _ =>
    piece_element (by decide) (word_toString n.toNat).plain)

/-- **What stands behind the log prefix** has nothing to do with it. -/
theorem yields_behind : Yields (r.fragmentsBehind flags) := by
  refine (r.yields_hook flags).bind fun hook hhook => ?_
  refine (r.yields_mark.selected flags .mark).bind fun mark hmark => ?_
  refine ((yields_devices (by decide) (by decide) r.inDevice r.outDevice).selected flags
    .device).bind fun devices hdevices => ?_
  refine ((yields_devices (by decide) (by decide) r.physInDevice r.physOutDevice).selected flags
    .physDevice).bind fun physDevices hphysDevices => ?_
  refine (r.yields_connection.selected flags .connectionId).bind fun connection hconnection => ?_
  have hpayload : ∀ s ∈ (if flags.contains .payload then
      (r.payload.map payloadFragments).getD [] else []), Piece s := by
    split_ifs
    · cases r.payload with
      | none => exact List.forall_mem_nil _
      | some payload => exact pieces_payload payload
    · exact List.forall_mem_nil _
  refine yields_ok ?_
  simp only [List.forall_mem_append]
  exact ⟨⟨⟨⟨⟨⟨hhook, hmark⟩, hdevices⟩, hphysDevices⟩, hconnection⟩, hpayload⟩, by decide⟩

/-- The log prefix is one element, if it is shown. -/
theorem exists_element_of_prefixFragments {fragments : List String}
    (h : r.prefixFragments flags = .ok fragments) :
    ∀ s ∈ fragments, ∃ text, s = element "prefix" (escape text) := by
  rw [prefixFragments, selected] at h
  split_ifs at h
  · obtain ⟨shown, -, hmap⟩ := exists_ok_of_bind h
    cases hmap
    exact List.forall_mem_map.mpr fun text _ => ⟨text, rfl⟩
  · cases h
    exact List.forall_mem_nil _

/-- A document is made of the fragments on both sides of the log prefix and of the log prefix. -/
theorem exists_of_fragments {fragments : List String} (h : r.fragments flags now = .ok fragments) :
    ∃ logPrefix behind, r.prefixFragments flags = .ok logPrefix ∧
      r.fragmentsBehind flags = .ok behind ∧
      fragments = fragmentsBefore flags now ++ logPrefix ++ behind := by
  rw [fragments_eq] at h
  obtain ⟨logPrefix, hlogPrefix, h⟩ := exists_ok_of_bind h
  obtain ⟨behind, hbehind, h⟩ := exists_ok_of_bind h
  exact ⟨logPrefix, behind, hlogPrefix, hbehind, (Except.ok.inj h).symm⟩

/-- **No fragment of a document is empty.** -/
theorem fragments_nonempty {fragments : List String} (h : r.fragments flags now = .ok fragments) :
    ∀ s ∈ fragments, s ≠ "" := by
  obtain ⟨logPrefix, behind, hlogPrefix, hbehind, rfl⟩ := r.exists_of_fragments flags now h
  refine List.forall_mem_append.mpr ⟨List.forall_mem_append.mpr ⟨?_, ?_⟩, ?_⟩
  · exact fun s hs => (pieces_before flags now s hs).nonempty
  · intro s hs
    obtain ⟨text, rfl⟩ := r.exists_element_of_prefixFragments flags hlogPrefix s hs
    exact element_ne_empty _ _
  · exact fun s hs => (r.yields_behind flags behind hbehind s hs).nonempty

/-! ## Records that differ in the log prefix only -/

/-- The two records have the same fields besides the log prefix. -/
def SameBesidesPrefix (r r' : LogRecord) : Prop :=
  ∀ kind, kind ≠ Field.logPrefix → r.attrs.get kind = r'.attrs.get kind

/-- **What stands behind the log prefix does not depend on it.** -/
theorem fragmentsBehind_congr {r r' : LogRecord} (h : SameBesidesPrefix r r') (flags : XmlFlags) :
    r.fragmentsBehind flags = r'.fragmentsBehind flags := by
  -- No field that is read behind the log prefix is read from its attribute.
  have hfixed : ∀ {α : Type} {kind : UInt16} (width : Nat) (decode : Bytes → α),
      kind ≠ Field.logPrefix → r.fixed kind width decode = r'.fixed kind width decode := by
    intro α kind width decode hkind
    rw [fixed, fixed, AttrTable.exact, AttrTable.exact, h kind hkind]
  have hword : ∀ {kind : UInt16}, kind ≠ Field.logPrefix →
      r.attrs.uint32 kind = r'.attrs.uint32 kind := by
    intro kind hkind
    simp only [AttrTable.uint32, AttrTable.number, AttrTable.exact, h kind hkind]
  have hpacketHeader : r.packetHeader = r'.packetHeader := hfixed 4 _ (by decide)
  have hhwAddr : r.hwAddr = r'.hwAddr := hfixed 12 _ (by decide)
  have hmark : r.mark = r'.mark := hword (by decide)
  have hinDevice : r.inDevice = r'.inDevice := hword (by decide)
  have houtDevice : r.outDevice = r'.outDevice := hword (by decide)
  have hphysInDevice : r.physInDevice = r'.physInDevice := hword (by decide)
  have hphysOutDevice : r.physOutDevice = r'.physOutDevice := hword (by decide)
  have hconnectionId : r.connectionId = r'.connectionId := by
    rw [connectionId, connectionId, h Field.conntrack (by decide)]
  have hpayload : r.payload = r'.payload := h Field.payload (by decide)
  simp only [fragmentsBehind, hookFragments, hpacketHeader, hhwAddr, hmark, hinDevice, houtDevice,
    hphysInDevice, hphysOutDevice, hconnectionId, hpayload]

end LogRecord

end PacketLog
