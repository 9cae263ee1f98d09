import Mathlib
import PacketLog.Proofs.Wire.Table
import PacketLog.Proofs.Xml.Content
import PacketLog.Proofs.Xml.Parts

set_option autoImplicit false

/-! # Well-formed documents

Every part of a document may stand in an element, whatever its field holds, so the document of a
record is one element with nested tags, in which every ampersand begins a reference. All parts but
the log prefix consist of characters of XML (`LogRecord.others_are_neat`). The log prefix has the
characters that it has: where one of them is none of XML the document is not well-formed
(`LogRecord.control_character_is_shown`), and that is the only case
(`LogRecord.document_wellFormed_iff`). -/

namespace PacketLog

namespace Xml

/-! ## Neat texts -/

/-- **A text that may stand in an element** and has characters of XML only. -/
structure Neat (text : String) : Prop where
  content : Content text.toList
  legible : Legible text.toList

theorem neat_empty : Neat "" := ⟨.nil, List.forall_mem_nil _⟩

theorem Neat.append {a b : String} (ha : Neat a) (hb : Neat b) : Neat (a ++ b) where
  content := by
    rw [String.toList_append]
    exact ha.content.append hb.content
  legible := by
    rw [String.toList_append]
    exact legible_append_iff.mpr ⟨ha.legible, hb.legible⟩

theorem neat_join {texts : List String} (h : ∀ s ∈ texts, Neat s) : Neat (String.join texts) := by
  induction texts with
  | nil => exact neat_empty
  | cons s texts ih =>
      obtain ⟨hs, htexts⟩ := List.forall_mem_cons.mp h
      rw [String.join_cons]
      exact hs.append (ih htexts)

theorem Word.neat {text : String} (h : Word text.toList) : Neat text := ⟨h.content, h.legible⟩

theorem legible_tag {name : List Char} (h : Legible name) : Legible (tag name) :=
  List.forall_mem_cons.mpr
    ⟨by decide, legible_append_iff.mpr ⟨h, List.forall_mem_singleton.mpr (by decide)⟩⟩

theorem IsElementName.legible {name : List Char} (h : IsElementName name) : Legible name := by
  intro c hc
  obtain ⟨hlow, hhigh⟩ := h.2 c hc
  have hrange : 0x20 ≤ c.toNat ∧ c.toNat ≤ 0xd7ff := by omega
  exact .inr (.inr (.inr (.inl hrange)))

/-- The tags of an element are legible, so it is if its text is. -/
theorem legible_element_iff {name text : String} (hname : IsElementName name.toList) :
    Legible (element name text).toList ↔ Legible text.toList := by
  have hstart : Legible (tag name.toList) := legible_tag hname.legible
  have hend : Legible (tag ('/' :: name.toList)) :=
    legible_tag (List.forall_mem_cons.mpr ⟨by decide, hname.legible⟩)
  rw [toList_element, legible_append_left hstart, legible_append_iff]
  exact and_iff_left hend

theorem neat_element {name text : String} (hname : IsElementName name.toList) (htext : Neat text) :
    Neat (element name text) where
  content := content_element hname htext.content
  legible := (legible_element_iff hname).mpr htext.legible

/-- Between neat texts there may stand what may stand in an element. -/
theorem content_between {first middle last : String} (hfirst : Neat first)
    (hmiddle : Content middle.toList) (hlast : Neat last) :
    Content (first ++ (middle ++ last)).toList := by
  rw [String.toList_append, String.toList_append]
  exact hfirst.content.append (hmiddle.append hlast.content)

/-- Neat texts around a text do not change whether it is legible. -/
theorem legible_between {first middle last : String} (hfirst : Neat first) (hlast : Neat last) :
    Legible (first ++ (middle ++ last)).toList ↔ Legible middle.toList := by
  rw [String.toList_append, String.toList_append, legible_append_left hfirst.legible,
    legible_append_iff]
  exact and_iff_left hlast.legible

/-- What is shown of a value that may be absent. -/
theorem neat_getD {α : Type} {value : Option α} {text : α → String} (h : ∀ a, Neat (text a)) :
    Neat ((value.map text).getD "") := by
  cases value with
  | none => exact neat_empty
  | some a => exact h a

/-! ## Neat parts -/

theorem neat_hex (bytes : Bytes) : Neat (Text.hex bytes) := by
  refine neat_join ?_
  exact List.forall_mem_map.mpr fun b _ => (word_hexByte b).neat

theorem neat_when (t : CalendarTime) : Neat (String.join (whenFragments t)) := by
  have hinner := join_enclosed "when" [element "hour" (toString t.hour),
    element "min" (twoDigits t.minute), element "sec" (twoDigits t.second),
    element "wday" (toString (t.weekday + 1)), element "day" (toString t.day),
    element "month" (toString t.month), element "year" (toString t.year)]
  have hfragments : String.join (whenFragments t) = _ := hinner
  rw [hfragments]
  refine neat_element (by decide) (neat_join ?_)
  simp only [List.forall_mem_cons, List.not_mem_nil, false_imp_iff, implies_true, and_true]
  exact ⟨neat_element (by decide) (word_toString _).neat,
    neat_element (by decide) (word_twoDigits _).neat,
    neat_element (by decide) (word_twoDigits _).neat,
    neat_element (by decide) (word_toString _).neat,
    neat_element (by decide) (word_toString _).neat,
    neat_element (by decide) (word_toString _).neat,
    neat_element (by decide) (word_toString_int _).neat⟩

theorem neat_nonzero {name : String} (hname : IsElementName name.toList) (n : Option UInt32) :
    Neat (String.join (nonzeroElement name n)) := by
  rw [join_nonzeroElement]
  exact neat_getD fun n => neat_element hname (word_toString n.toNat).neat

theorem neat_hw (protocol : UInt16) (address : Option HwAddr) :
    Neat (String.join (hwFragments protocol address)) := by
  rw [join_hwFragments]
  refine neat_element (by decide) (Neat.append ?_ ?_)
  · exact neat_element (by decide) (word_hexPadded 4 protocol.toNat).neat
  · exact neat_getD fun a => neat_element (by decide) (neat_hex a.bytes)

theorem neat_payload (payload : Option Bytes) :
    Neat (String.join ((payload.map payloadFragments).getD [])) := by
  rw [join_payloadFragments]
  exact neat_getD fun bytes => neat_element (by decide) (neat_hex bytes)

/-- **A part that is neat**, if it is made. -/
def NeatPart (part : Except WireError (List String)) : Prop :=
  ∀ fragments, part = .ok fragments → Neat (String.join fragments)

theorem neatPart {α : Type} {shown : α → List String} (h : ∀ a, Neat (String.join (shown a)))
    (needed : Bool) (field : Except WireError α) : NeatPart (part needed field shown) := by
  rintro fragments hfragments
  rw [part] at hfragments
  split_ifs at hfragments
  · cases field with
    | error e => cases hfragments
    | ok a =>
        cases hfragments
        exact h a
  · cases hfragments
    exact neat_empty

end Xml

namespace LogRecord

open Xml

/-! ## The parts of a document -/

/-- **All parts but the log prefix are neat**, whatever the record holds. -/
theorem others_are_neat (r : LogRecord) (flags : XmlFlags) (now : CalendarTime) :
    ∃ time behind, NeatPart time ∧ (∀ part ∈ behind, NeatPart part) ∧
      r.parts flags now = time :: part (flags.contains .logPrefix) r.logPrefix
        (fun text => text.toList.map fun s => element "prefix" (escape s)) :: behind := by
  -- What these parts show are words: decimal numbers and hexadecimal digits.
  refine ⟨_, _, neatPart neat_when _ _, ?_, rfl⟩
  simp only [List.forall_mem_cons, List.not_mem_nil, false_imp_iff, implies_true, and_true]
  refine ⟨neatPart (fun header => ?_) _ _, neatPart (fun address => ?_) _ _,
    neatPart (neat_nonzero (by decide)) _ _, neatPart (neat_nonzero (by decide)) _ _,
    neatPart (neat_nonzero (by decide)) _ _, neatPart (neat_nonzero (by decide)) _ _,
    neatPart (neat_nonzero (by decide)) _ _, neatPart (fun id => ?_) _ _,
    neatPart neat_payload _ _⟩
  · rw [join_map_toList]
    exact neat_getD fun h => neat_element (by decide) (word_toString h.hook.toNat).neat
  · cases r.header? with
    | none => exact neat_empty
    | some header => exact neat_hw header.hwProtocol address
  · rw [join_map_toList]
    exact neat_getD fun n => neat_element (by decide) (word_toString n.toNat).neat

variable {r : LogRecord} {flags : XmlFlags} {now : CalendarTime}

/-- **The log prefix may stand in an element**, and what it shows consists of characters of XML if
and only if it does itself. -/
theorem content_of_prefix {fragments : List String}
    (h : part (flags.contains .logPrefix) r.logPrefix
      (fun text => text.toList.map fun s => element "prefix" (escape s)) = .ok fragments) :
    Content (String.join fragments).toList ∧
      (Legible (String.join fragments).toList ↔ (flags.contains .logPrefix = true →
        ∀ shown, r.logPrefix = .ok (some shown) → Legible shown.toList)) := by
  have hempty : Content "".toList ∧ Legible "".toList := ⟨.nil, List.forall_mem_nil _⟩
  rw [part] at h
  split_ifs at h with hselected
  · cases hread : r.logPrefix with
    | error e =>
        rw [hread] at h
        cases h
    | ok text =>
        rw [hread] at h
        cases h
        rw [join_map_toList]
        cases text with
        | none =>
            refine ⟨hempty.1, fun _ _ shown hshown => ?_, fun _ => hempty.2⟩
            cases hshown
        | some shown =>
            have hescaped := escaped_escape shown
            have hname : IsElementName "prefix".toList := by decide
            refine ⟨content_element hname hescaped.content, ?_⟩
            show Legible (element "prefix" (escape shown)).toList ↔ _
            rw [legible_element_iff hname, hescaped.legible_iff]
            constructor
            · intro hlegible _ shown' hshown'
              cases hshown'
              exact hlegible
            · exact fun hlegible => hlegible hselected shown rfl
  · cases h
    exact ⟨hempty.1, fun _ hselected' => absurd hselected' hselected, fun _ => hempty.2⟩

/-! ## Documents -/

/-- **A document is well-formed if its log prefix has characters of XML only.** Where a record is
rendered, the tags of its document are nested in one root element and every ampersand begins a
reference, whatever the record holds. The document consists of characters of XML, and so is
well-formed, if and only if the log prefix does, where it is shown. -/
theorem document_wellFormed_iff {buffer : Bytes} {w : BoundedWriter}
    (h : r.render buffer flags now = .ok w) :
    ∃ document, r.RendersTo flags now document ∧ r.document flags now = .ok document ∧
      Rooted "log" document ∧ Entities document.toList ∧
      (WellFormed "log" document ↔ (flags.contains .logPrefix = true →
        ∀ shown, r.logPrefix = .ok (some shown) → Legible shown.toList)) := by
  obtain ⟨each, heach⟩ := exists_parts_of_render h
  have hrenders := rendersTo_of_parts heach
  obtain ⟨time, behind, htime, hbehind, hparts⟩ := r.others_are_neat flags now
  rw [heach] at hparts
  obtain ⟨first, each, rfl, hfirst, hrest⟩ := List.map_eq_cons_iff.mp hparts
  obtain ⟨second, others, rfl, hsecond, hothers⟩ := List.map_eq_cons_iff.mp hrest
  have hneat_first : Neat (String.join first) := htime first hfirst.symm
  have hneat_others : Neat (String.join (others.map String.join)) := by
    refine neat_join (List.forall_mem_map.mpr fun fragments hfragments => ?_)
    have hmem : (.ok fragments : Except WireError (List String)) ∈ behind := by
      rw [← hothers]
      exact List.mem_map_of_mem hfragments
    exact hbehind _ hmem fragments rfl
  obtain ⟨hcontent, hlegible⟩ := content_of_prefix hsecond.symm
  have hjoin : String.join ((first :: second :: others).map String.join) =
      String.join first ++ (String.join second ++ String.join (others.map String.join)) := by
    simp only [List.map_cons, String.join_cons]
  rw [hjoin] at hrenders
  have hname : IsElementName "log".toList := by decide
  have hrooted : Rooted "log" _ :=
    ⟨_, content_between hneat_first hcontent hneat_others, rfl⟩
  have hreferences : Entities _ := hrooted.entities hname
  refine ⟨_, hrenders, document_eq_ok_iff.mpr hrenders, hrooted, hreferences, ?_⟩
  -- Only its characters can be wrong with the document, and only in the log prefix.
  rw [← hlegible, ← legible_between hneat_first hneat_others, ← legible_element_iff hname]
  exact ⟨WellFormed.legible, fun hcharacters => ⟨hcharacters, hrooted, hreferences⟩⟩

/-- A log prefix that imitates markup and entities, in a document that shows everything. -/
theorem imitated_markup_is_wellFormed :
    let attrs : List Attr := [⟨Field.packetHeader, [0x08, 0x00, 1, 0]⟩,
      ⟨Field.logPrefix, Bytes.ofText "</log>&lt;\t<é" ++ [0]⟩, ⟨Field.payload, [0x45]⟩]
    let r : LogRecord := ⟨attrs.foldl AttrTable.add { maxKind := Field.last, depth := 0 }⟩
    let now : CalendarTime := ⟨2024, 3, 5, 7, 4, 9⟩
    let document := "<log><when><hour>7</hour><min>04</min><sec>09</sec><wday>3</wday>" ++
      "<day>5</day><month>3</month><year>2024</year></when>" ++
      "<prefix>&lt;/log&gt;&amp;lt;\t&lt;é</prefix>" ++
      "<hook>1</hook><hw><proto>0800</proto></hw><payload>45</payload></log>"
    ∃ buffer w, r.render buffer .all now = .ok w ∧ r.RendersTo .all now document ∧
      WellFormed "log" document := by
  intro attrs r now document
  have hdocument : (r.fragments .all now).map String.join = .ok document := by
    decide +kernel +zetaReduce
  have hread : r.logPrefix = .ok (some "</log>&lt;\t<é") := by decide +kernel +zetaReduce
  have hlegible : Legible "</log>&lt;\t<é".toList := by decide +kernel
  have hshown := rendersTo_of_join hdocument
  obtain ⟨w, hw, -⟩ := hshown.reported []
  obtain ⟨_, hrenders, -, -, -, hwell⟩ := document_wellFormed_iff hw
  cases hrenders.eq hshown
  refine ⟨[], w, hw, hrenders, hwell.mpr fun _ text htext => ?_⟩
  rw [hread] at htext
  cases htext
  exact hlegible

/-- **A control character in the log prefix is shown as it is**, though no document of XML may have
it. -/
theorem control_character_is_shown :
    let bytes : Bytes := [6, 0, 10, 0, 1, 0, 0, 0]
    let now : CalendarTime := default
    let document := "<log><prefix>\x01</prefix></log>"
    ∃ r, parse bytes = .ok r ∧ r.logPrefix = .ok (some "\x01") ∧
      r.RendersTo .logPrefix now document ∧ ¬WellFormed "log" document := by
  intro bytes now document
  have hscan : Attr.scan bytes = [⟨Field.logPrefix, [1, 0]⟩].map .ok := by decide +kernel
  have hparse : parse bytes = .ok ⟨[⟨Field.logPrefix, [1, 0]⟩].foldl AttrTable.add
      { maxKind := Field.last, depth := 0 }⟩ := by
    rw [parse, AttrTable.parse_of_scan hscan]
    rfl
  refine ⟨_, hparse, ?_, document_eq_ok_iff.mp ?_, ?_⟩
  · decide +kernel
  · decide +kernel +zetaReduce
  · intro hwell
    have hchar : IsXmlChar '\x01' := hwell.legible '\x01' (by decide +kernel)
    exact absurd hchar (by decide)

end LogRecord

end PacketLog
