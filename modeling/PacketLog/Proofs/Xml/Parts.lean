import Mathlib
import PacketLog.Proofs.Xml.Whole

set_option autoImplicit false

/-! # The parts of a document

What stands between the tags of a document falls into parts, one for each field that the document
can show (`LogRecord.parts`). Each of them is made from its field alone, so a document has all of
its parts or the error of the first that cannot be made (`Xml.together_eq_error_iff`), and it does
not matter whether the parts are made one by one while the buffer is filled or all before
(`LogRecord.renderInTurns_eq`). -/

namespace PacketLog

/-- The error of a field, if it is malformed. -/
def errorOf {α : Type} : Except WireError α → List WireError
  | .ok _ => []
  | .error e => [e]

namespace Xml

/-! ## Parts in general -/

/-- **A part of a document**: the fragments that show a field. A field that is not needed is not
decoded. -/
def part {α : Type} (needed : Bool) (field : Except WireError α) (shown : α → List String) :
    Except WireError (List String) :=
  if needed then field.map shown else .ok []

theorem part_of_ok {α : Type} {field : Except WireError α} {a : α} (h : field = .ok a)
    (needed : Bool) (shown : α → List String) :
    part needed field shown = .ok (if needed then shown a else []) := by
  rw [part, h]
  split_ifs <;> rfl

theorem part_congr {α : Type} {needed : Bool} {field field' : Except WireError α}
    (h : needed = true → field = field') (shown : α → List String) :
    part needed field shown = part needed field' shown := by
  rw [part, part]
  split_ifs with hneeded
  · rw [h hneeded]
  · rfl

theorem errorOf_part {α : Type} (needed : Bool) (field : Except WireError α)
    (shown : α → List String) :
    errorOf (part needed field shown) = if needed then errorOf field else [] := by
  rw [part]
  split_ifs
  · cases field <;> rfl
  · rfl

/-- The fragments of some parts, one part after the other, or the first error. -/
def together : List (Except WireError (List String)) → Except WireError (List String)
  | [] => .ok []
  | part :: later => do
    let fragments ← part
    let others ← together later
    return fragments ++ others

variable {parts : List (Except WireError (List String))}

theorem together_nil : together [] = pure [] := rfl

theorem together_cons (part : Except WireError (List String)) :
    together (part :: parts) = do
      let fragments ← part
      let others ← together parts
      return fragments ++ others := rfl

/-- **The first part that cannot be made** is what is wrong with all of them. -/
theorem together_eq_error_iff {e : WireError} :
    together parts = .error e ↔ (parts.flatMap errorOf).head? = some e := by
  induction parts with
  | nil => simp [together]
  | cons part later ih =>
      rw [List.flatMap_cons]
      cases part with
      | error e' => simp [together, errorOf, bind, Except.bind]
      | ok fragments =>
          rw [errorOf, List.nil_append, ← ih, together]
          cases together later with
          | error e' => simp [bind, Except.bind]
          | ok others => simp [bind, Except.bind, pure, Except.pure]

/-- Parts that can all be made stand one after the other. -/
theorem together_ok (each : List (List String)) :
    together (each.map .ok) = .ok each.flatten := by
  induction each with
  | nil => rfl
  | cons fragments each ih =>
      rw [List.map_cons, together, ih]
      rfl

/-- **Parts that are all made** are made each for itself. -/
theorem exists_of_together {fragments : List String} (h : together parts = .ok fragments) :
    ∃ each : List (List String), parts = each.map .ok ∧ fragments = each.flatten := by
  induction parts generalizing fragments with
  | nil =>
      cases h
      exact ⟨[], rfl, rfl⟩
  | cons part later ih =>
      obtain ⟨first, hfirst, hbehind⟩ := exists_ok_of_bind h
      obtain ⟨others, hothers, hjoined⟩ := exists_ok_of_bind hbehind
      obtain ⟨each, rfl, rfl⟩ := ih hothers
      cases hfirst
      cases hjoined
      exact ⟨first :: each, rfl, rfl⟩

/-! ## Texts of parts -/

/-- Parts are joined as the texts that each of them comes to. -/
theorem join_flatten (each : List (List String)) :
    String.join each.flatten = String.join (each.map String.join) := by
  induction each with
  | nil => rfl
  | cons fragments each ih =>
      rw [List.flatten_cons, String.join_append, ih, List.map_cons, String.join_cons]

/-- Fragments between two tags are joined to an element. -/
theorem join_enclosed (name : String) (inner : List String) :
    String.join (("<" ++ name ++ ">") :: (inner ++ ["</" ++ name ++ ">"])) =
      element name (String.join inner) := by
  rw [String.join_cons, String.join_append, String.join_cons, String.join_nil,
    String.append_empty]
  simp only [element, String.append_assoc]

theorem join_singleton (s : String) : String.join [s] = s := by
  rw [String.join_cons, String.join_nil, String.append_empty]

theorem join_map_toList {α : Type} (value : Option α) (text : α → String) :
    String.join (value.toList.map text) = (value.map text).getD "" := by
  cases value with
  | none => rfl
  | some a => exact join_singleton (text a)

/-- **A number that is not zero** comes to an element. -/
theorem join_nonzeroElement (name : String) (n : Option UInt32) :
    String.join (nonzeroElement name n) =
      ((n.filter (· ≠ 0)).map fun n => element name (toString n.toNat)).getD "" := by
  cases n with
  | none => rfl
  | some n =>
      rw [nonzeroElement]
      split_ifs with hzero
      · subst hzero
        rfl
      · rw [Option.filter_some_pos (by simpa using hzero)]
        exact join_singleton (element name (toString n))

/-- **The link layer** comes to one element, with the address inside if there is one. -/
theorem join_hwFragments (protocol : UInt16) (address : Option HwAddr) :
    String.join (hwFragments protocol address) =
      element "hw" (element "proto" (Text.hexPadded 4 protocol.toNat) ++
        (address.map fun a => element "src" (Text.hex a.bytes)).getD "") := by
  cases address with
  | none =>
      rw [hwFragments, join_singleton]
      simp only [element, Option.map_none, Option.getD_none, String.append_empty,
        String.append_assoc]
      rfl
  | some a =>
      have hend : "</src></hw>" = "</src>" ++ "</hw>" := rfl
      simp only [hwFragments, List.cons_append, List.nil_append, String.join_cons,
        String.join_append, String.join_nil, String.append_empty, hend, element, Option.map_some,
        Option.getD_some, String.append_assoc]
      rfl

/-- **The packet's bytes** come to one element. -/
theorem join_payloadFragments (payload : Option Bytes) :
    String.join ((payload.map payloadFragments).getD []) =
      (payload.map fun bytes => element "payload" (Text.hex bytes)).getD "" := by
  cases payload with
  | none => rfl
  | some bytes => exact join_enclosed "payload" (bytes.map Text.hexByte)

end Xml

/-! ## Writing in turns -/

namespace BoundedWriter

/-- Writes a part behind what was written before it, fragment by fragment. A field that is
malformed ends the writing. -/
def writePart (w : BoundedWriter) :
    Except WireError (List String) → Except XmlError BoundedWriter
  | .ok fragments => fragments.foldlM (fun w fragment => w.emit (.ok fragment)) w
  | .error e => .error (.attr e)

/-- Fragments that are formatted are all written. -/
theorem foldlM_emit (w : BoundedWriter) (fragments : List String) :
    fragments.foldlM (fun w fragment => w.emit (.ok fragment)) w =
      .ok (fragments.foldl push w) := by
  induction fragments generalizing w with
  | nil => rfl
  | cons fragment fragments ih =>
      rw [List.foldlM_cons, List.foldl_cons, ← ih]
      rfl

/-- **Writing the parts in turns** comes to the same as making all of them first. -/
theorem foldlM_writePart (w : BoundedWriter) (parts : List (Except WireError (List String))) :
    parts.foldlM writePart w = match Xml.together parts with
      | .ok fragments => .ok (fragments.foldl push w)
      | .error e => .error (.attr e) := by
  -- The writer is any, since the later parts find what the first has written.
  induction parts generalizing w with
  | nil => rfl
  | cons part later ih =>
      rw [List.foldlM_cons, Xml.together]
      cases part with
      | error e => rfl
      | ok fragments =>
          rw [writePart, foldlM_emit]
          show later.foldlM writePart (fragments.foldl push w) = _
          rw [ih]
          cases Xml.together later with
          | error e => rfl
          | ok others =>
              show _ = Except.ok ((fragments ++ others).foldl push w)
              rw [List.foldl_append]

end BoundedWriter

/-! ## The parts of a record's document -/

namespace LogRecord

open Xml

variable (r : LogRecord) (flags : XmlFlags) (now : CalendarTime)

/-- The packet header, if it is present and not malformed. -/
def header? : Option PacketHeader := r.packetHeader.toOption.join

/-- **The parts of a document**, in order. -/
def parts : List (Except WireError (List String)) := [
  part (flags.contains .time) (.ok now) whenFragments,
  part (flags.contains .logPrefix) r.logPrefix fun text =>
    text.toList.map fun s => element "prefix" (escape s),
  part true r.packetHeader fun header => header.toList.map fun h => element "hook" (toString h.hook),
  part (flags.contains .hw && r.header?.isSome) r.hwAddr fun address =>
    (r.header?.map fun h => hwFragments h.hwProtocol address).getD [],
  part (flags.contains .mark) r.mark (nonzeroElement "mark"),
  part (flags.contains .device) r.inDevice (nonzeroElement "indev"),
  part (flags.contains .device) r.outDevice (nonzeroElement "outdev"),
  part (flags.contains .physDevice) r.physInDevice (nonzeroElement "physindev"),
  part (flags.contains .physDevice) r.physOutDevice (nonzeroElement "physoutdev"),
  part (flags.contains .connectionId) r.connectionId fun id =>
    id.toList.map fun n => element "ctid" (toString n),
  part (flags.contains .payload) (.ok r.payload) fun payload =>
    (payload.map payloadFragments).getD []]

/-- Fragments that show one field are a part. -/
theorem selected_eq_part {α : Type} (flag : XmlFlags) (field : Except WireError α)
    (shown : α → List String) :
    (selected flags flag do return shown (← field)) = part (flags.contains flag) field shown := by
  rw [selected, part]
  split_ifs
  · cases field <;> rfl
  · rfl

/-- Fragments that show two fields are two parts. -/
theorem selected_eq_parts {α β : Type} (flag : XmlFlags) (first : Except WireError α)
    (second : Except WireError β) (shown : α → List String) (shown' : β → List String) :
    (selected flags flag do
      let a ← first
      let b ← second
      return shown a ++ shown' b) = (do
        let a ← part (flags.contains flag) first shown
        let b ← part (flags.contains flag) second shown'
        return a ++ b) := by
  rw [selected, part, part]
  split_ifs
  · cases first with
    | error e => rfl
    | ok a => cases second <;> rfl
  · rfl

/-- The hook and the link layer are two parts. -/
theorem hookFragments_eq_parts :
    r.hookFragments flags = (do
      let hook ← part true r.packetHeader fun header =>
        header.toList.map fun h => element "hook" (toString h.hook)
      let hw ← part (flags.contains .hw && r.header?.isSome) r.hwAddr fun address =>
        (r.header?.map fun h => hwFragments h.hwProtocol address).getD []
      return hook ++ hw) := by
  rw [hookFragments, header?]
  cases r.packetHeader with
  | error e => rfl
  | ok header =>
      cases header with
      | none =>
          -- The second part is not needed then, so the address is not decoded.
          simp only [part]
          cases flags.contains .hw <;> rfl
      | some header =>
          simp only [selected, part]
          cases flags.contains .hw with
          | false => rfl
          | true => cases r.hwAddr <;> rfl

/-- **A document is made of its parts.** -/
theorem fragments_eq_together :
    r.fragments flags now =
      (together (r.parts flags now)).map fun inner => "<log>" :: (inner ++ ["</log>"]) := by
  -- The time and the payload cannot be malformed.
  have htime : part (flags.contains .time) (.ok now) whenFragments =
      pure (if flags.contains .time then whenFragments now else []) :=
    part_of_ok rfl _ _
  have hpayload : part (flags.contains .payload) (.ok r.payload)
      (fun payload => (payload.map payloadFragments).getD []) =
      pure (if flags.contains .payload then (r.payload.map payloadFragments).getD [] else []) :=
    part_of_ok rfl _ _
  have hmap : ∀ inner : Except WireError (List String),
      inner.map (fun inner => "<log>" :: (inner ++ ["</log>"])) =
        inner >>= fun inner => pure ("<log>" :: (inner ++ ["</log>"])) := by
    intro inner
    cases inner <;> rfl
  -- With every bind to the right, both sides make the same parts in the same order.
  simp only [fragments, parts, together_nil, together_cons, htime, hpayload, hmap,
    selected_eq_part, selected_eq_parts, hookFragments_eq_parts, bind_assoc, pure_bind,
    List.append_assoc, List.cons_append, List.nil_append, List.append_nil]

variable {r : LogRecord} {flags : XmlFlags} {now : CalendarTime}

/-- **A document whose parts are all made** is an element that holds them. -/
theorem rendersTo_of_parts {each : List (List String)} (h : r.parts flags now = each.map .ok) :
    r.RendersTo flags now (element "log" (String.join (each.map String.join))) := by
  have hfragments : r.fragments flags now = .ok ("<log>" :: (each.flatten ++ ["</log>"])) := by
    rw [fragments_eq_together, h, together_ok]
    rfl
  have hdocument : String.join ("<log>" :: (each.flatten ++ ["</log>"])) =
      element "log" (String.join (each.map String.join)) := by
    rw [← join_flatten]
    exact join_enclosed "log" each.flatten
  rw [← hdocument]
  exact rendersTo_of_fragments hfragments

/-- **All parts are made** where a record is rendered. -/
theorem exists_parts_of_render {buffer : Bytes} {w : BoundedWriter}
    (h : r.render buffer flags now = .ok w) :
    ∃ each : List (List String), r.parts flags now = each.map .ok := by
  obtain ⟨fragments, hfragments⟩ := exists_fragments_of_render h
  rw [fragments_eq_together] at hfragments
  cases htogether : together (r.parts flags now) with
  | error e =>
      rw [htogether] at hfragments
      cases hfragments
  | ok inner =>
      obtain ⟨each, heach, -⟩ := exists_of_together htogether
      exact ⟨each, heach⟩

/-! ## Decoding by turns -/

/-- **Renders a record by turns**: each field is decoded only when all that stands before it is
written, whether it was copied or not. -/
def renderInTurns (r : LogRecord) (buffer : Bytes) (flags : XmlFlags) (now : CalendarTime) :
    Except XmlError BoundedWriter := do
  let w ← (r.parts flags now).foldlM BoundedWriter.writePart
    ((BoundedWriter.new buffer).push "<log>")
  return w.push "</log>"

/-- **Decoding and writing by turns** comes to the same as decoding all fields first. -/
theorem renderInTurns_eq (r : LogRecord) (buffer : Bytes) (flags : XmlFlags)
    (now : CalendarTime) :
    r.renderInTurns buffer flags now = r.render buffer flags now := by
  rw [renderInTurns, BoundedWriter.foldlM_writePart, render, fragments_eq_together]
  cases together (r.parts flags now) with
  | error e => rfl
  | ok inner =>
      show Except.ok _ = Except.ok _
      rw [List.foldl_cons, List.foldl_append]
      rfl

end LogRecord

end PacketLog
