import Mathlib
import PacketLog.Proofs.Text.Utf8
import PacketLog.Proofs.Wire.Table
import PacketLog.Proofs.Xml.Surrounds
import PacketLog.Proofs.Xml.Truncation

set_option autoImplicit false

/-! # The log prefix in a document

The log prefix is a text that anyone who can write a firewall rule chooses. A record that was
written with one has it up to its first NUL (`LogRecord.logPrefix_among`), and nothing else in the
record depends on it (`LogRecord.sameBesidesPrefix_among`). Its document shows it without markup,
and is the same around it whatever it says: both are stated in `LogRecord.log_prefix_is_sealed`. -/

namespace PacketLog

/-! ## Records with a log prefix -/

namespace AttrWriter

/-- Writes a log prefix, with other attributes before and after it. -/
def writeAmong (before after : List AttrTree) (text : String) :
    Except WireError AttrWriter := do
  let opened ← writeForest before {}
  let written ← opened.putText Field.logPrefix text
  written.writeForest after

/-- The attribute that a log prefix is written as. -/
def prefixTree (text : String) : AttrTree := .leaf Field.logPrefix (Bytes.ofText text ++ [0])

theorem writeAmong_eq (before after : List AttrTree) (text : String) :
    writeAmong before after text = writeForest (before ++ prefixTree text :: after) {} := by
  rw [writeForest_append]
  rfl

end AttrWriter

namespace LogRecord

open Xml

/-- The record of a sequence of attributes. -/
def ofAttrs (attrs : List Attr) : LogRecord :=
  ⟨attrs.foldl AttrTable.add { maxKind := Field.last, depth := 0 }⟩

/-- **What was written is read as a record.** -/
theorem parse_of_writeForest {forest : List AttrTree} {w : AttrWriter}
    (h : AttrWriter.writeForest forest {} = .ok w) :
    parse w.bytes = .ok (ofAttrs (forest.map AttrTree.attr)) := by
  have hfits := (AttrWriter.writeForest_ok_iff rfl).mp ⟨w, h⟩
  rw [AttrWriter.writeForest_of_fits hfits rfl] at h
  cases h
  show (AttrTable.parse (AttrTree.encodeForest forest) Field.last).map LogRecord.mk = _
  rw [AttrTable.parse_of_scan (AttrTree.scan_encodeForest hfits)]
  rfl

section

variable (before after : List AttrTree)

/-- The record that is read where a log prefix was written among other attributes. -/
def among (text : String) : LogRecord :=
  ofAttrs ((before ++ AttrWriter.prefixTree text :: after).map AttrTree.attr)

theorem parse_among {text : String} {w : AttrWriter}
    (h : AttrWriter.writeAmong before after text = .ok w) :
    parse w.bytes = .ok (among before after text) := by
  rw [AttrWriter.writeAmong_eq] at h
  exact parse_of_writeForest h

theorem attrs_among (text : String) :
    (among before after text).attrs =
      (before.map AttrTree.attr ++ (AttrWriter.prefixTree text).attr ::
        after.map AttrTree.attr).foldl AttrTable.add { maxKind := Field.last, depth := 0 } := by
  rw [among, ofAttrs, List.map_append, List.map_cons]

theorem kind_prefixTree (text : String) :
    (AttrWriter.prefixTree text).attr.kind = Field.logPrefix := by
  show Field.logPrefix &&& Attr.kindMask = Field.logPrefix
  decide

/-- **The log prefix is read up to its first NUL.** -/
theorem logPrefix_among
    (hothers : ∀ t ∈ before ++ after, t.attr.kind ≠ Field.logPrefix) (text : String) :
    (among before after text).logPrefix = .ok (some (Bytes.beforeNul text)) := by
  have hattr : (among before after text).attrs.attr Field.logPrefix =
      some (AttrWriter.prefixTree text).attr := by
    rw [attrs_among, ← kind_prefixTree text]
    apply AttrTable.attr_of_only
    · rw [kind_prefixTree]
      decide
    · rw [← List.map_append, List.forall_mem_map, kind_prefixTree]
      exact hothers
  have hget : (among before after text).attrs.get Field.logPrefix =
      some (Bytes.ofText text ++ [0]) := by
    rw [AttrTable.get, hattr]
    rfl
  simp only [logPrefix, hget, Bytes.takeWhile_ofText, Bytes.toText?_ofText]

/-- **Nothing else in the record depends on the log prefix.** -/
theorem sameBesidesPrefix_among (text text' : String) :
    SameBesidesPrefix (among before after text) (among before after text') := by
  intro kind hkind
  have hother : ∀ text, (among before after text).attrs.attr kind =
      ((before.map AttrTree.attr ++ after.map AttrTree.attr).foldl AttrTable.add
        { maxKind := Field.last, depth := 0 }).attr kind := by
    intro text
    rw [attrs_among]
    apply AttrTable.attr_of_other
    rw [kind_prefixTree]
    exact hkind.symm
  rw [AttrTable.get, AttrTable.get, hother, hother]

end

/-! ## Documents of records with a log prefix -/

variable {r r' : LogRecord} {flags : XmlFlags} {now : CalendarTime} {shown shown' : String}

/-- The fragment of a log prefix, if it is selected. -/
def shownPrefix (flags : XmlFlags) (shown : String) : List String :=
  if flags.contains .logPrefix then [element "prefix" (escape shown)] else []

theorem prefixFragments_eq (h : r.logPrefix = .ok (some shown)) :
    r.prefixFragments flags = .ok (shownPrefix flags shown) := by
  rw [prefixFragments, selected, shownPrefix, h]
  split_ifs <;> rfl

/-- **A document is refused only for a field behind the log prefix**, and is made of the log
prefix and what stands around it else. -/
theorem document_eq (h : r.logPrefix = .ok (some shown)) :
    r.document flags now = match r.fragmentsBehind flags with
      | .ok behind => .ok (String.join (fragmentsBefore flags now) ++
          String.join (shownPrefix flags shown) ++ String.join behind)
      | .error e => .error (.attr e) := by
  have hfragments := r.fragments_eq flags now
  rw [prefixFragments_eq h] at hfragments
  cases hbehind : r.fragmentsBehind flags with
  | error e =>
      rw [hbehind] at hfragments
      have hrender : r.render [] flags now = .error (.attr e) := by rw [render, hfragments]; rfl
      rw [document, hrender]
      rfl
  | ok behind =>
      rw [hbehind] at hfragments
      rw [document_of_fragments hfragments, String.join_append, String.join_append]

theorem surrounds_of_behind {behind : List String} (h : r.fragmentsBehind flags = .ok behind)
    (now : CalendarTime) :
    Surrounds (String.join (fragmentsBefore flags now)).toList (String.join behind).toList :=
  surrounds_of_pieces (pieces_before flags now) (r.yields_behind flags behind h)

theorem join_shownPrefix (flags : XmlFlags) (shown : String) :
    String.join (shownPrefix flags shown) =
      if flags.contains .logPrefix then element "prefix" (escape shown) else "" := by
  rw [shownPrefix]
  split_ifs
  · rw [String.join_cons, String.join_nil, String.append_empty]
  · rfl

/-- **A document shows the log prefix of its record**, if it is selected. -/
theorem showsPrefix_of_document (h : r.logPrefix = .ok (some shown))
    (hselected : flags.contains .logPrefix = true) {document : String}
    (hdocument : r.document flags now = .ok document) : ShowsPrefix shown document := by
  rw [document_eq h, join_shownPrefix, if_pos hselected] at hdocument
  split at hdocument
  · rename_i behind hbehind
    cases hdocument
    exact showsPrefix_of_surrounds (surrounds_of_behind hbehind now) shown
  · cases hdocument

/-- **Records that differ in the log prefix only** are refused for the same field, or have
documents that differ in the log prefix only. -/
theorem document_congr (hsame : SameBesidesPrefix r r') (h : r.logPrefix = .ok (some shown))
    (h' : r'.logPrefix = .ok (some shown')) :
    (∃ e, r.document flags now = .error e ∧ r'.document flags now = .error e) ∨
      ∃ document document', r.document flags now = .ok document ∧
        r'.document flags now = .ok document' ∧ SameOutsidePrefix document document' := by
  rw [document_eq h, document_eq h', ← fragmentsBehind_congr hsame, join_shownPrefix,
    join_shownPrefix]
  cases hbehind : r.fragmentsBehind flags with
  | error e => exact .inl ⟨.attr e, rfl, rfl⟩
  | ok behind =>
      have hsurrounds := surrounds_of_behind hbehind now
      refine .inr ⟨_, _, rfl, rfl, ?_⟩
      split_ifs
      · exact sameOutsidePrefix_of_surrounds hsurrounds shown shown'
      · rw [String.append_empty]
        exact sameOutsidePrefix_refl hsurrounds

/-- **The log prefix can neither forge nor hide markup.** A record that was written with a log
prefix among other attributes, none of them another log prefix, has it up to its first NUL. A
document that shows it has it at one place only, without markup, and gives it back when its entities
are read. And two such records that differ in the log prefix only are refused for the same reason,
or have documents with the same tags and the same text outside of the log prefix. -/
theorem log_prefix_is_sealed (before after : List AttrTree)
    (hothers : ∀ t ∈ before ++ after, t.attr.kind ≠ Field.logPrefix) (flags : XmlFlags)
    (now : CalendarTime) :
    (∀ text w, AttrWriter.writeAmong before after text = .ok w →
      ∃ r, parse w.bytes = .ok r ∧ r.logPrefix = .ok (some (Bytes.beforeNul text)) ∧
        (flags.contains .logPrefix = true → ∀ buffer v, r.render buffer flags now = .ok v →
          ∃ document, r.document flags now = .ok document ∧
            ShowsPrefix (Bytes.beforeNul text) document)) ∧
      ∀ text text' w w', AttrWriter.writeAmong before after text = .ok w →
        AttrWriter.writeAmong before after text' = .ok w' →
        ∀ r r', parse w.bytes = .ok r → parse w'.bytes = .ok r' →
          (∃ e, r.document flags now = .error e ∧ r'.document flags now = .error e) ∨
            ∃ document document', r.document flags now = .ok document ∧
              r'.document flags now = .ok document' ∧ SameOutsidePrefix document document' := by
  have hread := logPrefix_among before after hothers
  constructor
  · intro text w hw
    refine ⟨among before after text, parse_among before after hw, hread text, ?_⟩
    intro hselected buffer v hv
    obtain ⟨fragments, hfragments⟩ := exists_fragments_of_render hv
    have hdocument := document_of_fragments hfragments
    exact ⟨_, hdocument, showsPrefix_of_document (hread text) hselected hdocument⟩
  · intro text text' w w' hw hw' r r' hr hr'
    rw [parse_among before after hw] at hr
    rw [parse_among before after hw'] at hr'
    cases hr
    cases hr'
    exact document_congr (sameBesidesPrefix_among before after text text') (hread text)
      (hread text')

/-- A log prefix that would close its own element, between a packet header and a mark: it is shown
as it was written, up to its first NUL, and what stands around it is the same as with a harmless
one. -/
theorem closing_tag_is_sealed :
    let before : List AttrTree := [.leaf Field.packetHeader [8, 0, 1, 0]]
    let after : List AttrTree := [.leaf Field.mark [0, 0, 0, 42]]
    let flags := XmlFlags.logPrefix.union .mark
    let now : CalendarTime := default
    let text := "</prefix>&lt;<é>\x00b"
    (∀ t ∈ before ++ after, t.attr.kind ≠ Field.logPrefix) ∧
      ∃ w w' r r' document document',
        AttrWriter.writeAmong before after text = .ok w ∧
        AttrWriter.writeAmong before after "DROP " = .ok w' ∧
        parse w.bytes = .ok r ∧ parse w'.bytes = .ok r' ∧
        r.logPrefix = .ok (some "</prefix>&lt;<é>") ∧
        r.document flags now = .ok document ∧ r'.document flags now = .ok document' ∧
        document = "<log><prefix>&lt;/prefix&gt;&amp;lt;&lt;é&gt;</prefix>" ++
          "<hook>1</hook><mark>42</mark></log>" ∧
        ShowsPrefix "</prefix>&lt;<é>" document ∧ SameOutsidePrefix document document' := by
  intro before after flags now text
  have hothers : ∀ t ∈ before ++ after, t.attr.kind ≠ Field.logPrefix := by decide +kernel
  obtain ⟨hshows, hsame⟩ := log_prefix_is_sealed before after hothers flags now
  have hwrite : ∀ s, (Bytes.ofText s ++ [0]).length ≤ 65531 →
      ∃ w, AttrWriter.writeAmong before after s = .ok w := by
    intro s hs
    rw [AttrWriter.writeAmong_eq]
    refine (AttrWriter.writeForest_ok_iff rfl).mpr ?_
    exact List.forall_mem_cons.mpr ⟨.leaf (by decide), List.forall_mem_cons.mpr
      ⟨.leaf hs, List.forall_mem_singleton.mpr (.leaf (by decide))⟩⟩
  obtain ⟨w, hw⟩ := hwrite text (by decide +kernel)
  obtain ⟨w', hw'⟩ := hwrite "DROP " (by decide +kernel)
  have hr := parse_among before after hw
  have hr' := parse_among before after hw'
  have hnul : Bytes.beforeNul text = "</prefix>&lt;<é>" := by decide +kernel
  have hdocument : (among before after text).document flags now =
      .ok ("<log><prefix>&lt;/prefix&gt;&amp;lt;&lt;é&gt;</prefix>" ++
        "<hook>1</hook><mark>42</mark></log>") := by decide +kernel +zetaReduce
  obtain ⟨r, hparse, hread, hshown⟩ := hshows _ w hw
  rw [hr] at hparse
  cases hparse
  obtain ⟨v, hv⟩ := exists_render_of_document hdocument
  obtain ⟨document, hfirst, hsealed⟩ := hshown (by decide) [] v hv
  rw [hnul] at hread hsealed
  obtain ⟨e, he, -⟩ | ⟨first, second, hd, hd', houtside⟩ := hsame _ _ w w' hw hw' _ _ hr hr'
  · rw [hdocument] at he
    cases he
  · rw [hfirst] at hd hdocument
    cases hd
    exact ⟨hothers, w, w', _, _, document, second, hw, hw', hr, hr', hread, hfirst, hd',
      Except.ok.inj hdocument, hsealed, houtside⟩

end LogRecord

end PacketLog
