import Mathlib
import PacketLog.Proofs.Xml.Markup
import PacketLog.Xml.Document

set_option autoImplicit false

/-! # Escaped text

A text is escaped so that it can stand in an element: the three characters of markup become
entities, and every other one stands for itself (`Xml.Escaped`). What comes out is without markup
(`Xml.Escaped.plain`), an ampersand in it begins one of the three entities
(`Xml.Escaped.entities`), and the text is found again by reading each entity as the character that
it stands for (`Xml.unescape_escape`). None of this depends on what the text is: it may hold tags
and entities of its own. -/

namespace PacketLog.Xml

/-- **Which text stands for which**, character by character. -/
inductive Escaped : List Char → List Char → Prop
  | nil : Escaped [] []
  | amp {plain escaped : List Char} (h : Escaped plain escaped) :
      Escaped ('&' :: plain) ('&' :: 'a' :: 'm' :: 'p' :: ';' :: escaped)
  | lt {plain escaped : List Char} (h : Escaped plain escaped) :
      Escaped ('<' :: plain) ('&' :: 'l' :: 't' :: ';' :: escaped)
  | gt {plain escaped : List Char} (h : Escaped plain escaped) :
      Escaped ('>' :: plain) ('&' :: 'g' :: 't' :: ';' :: escaped)
  | char {c : Char} {plain escaped : List Char} (amp : c ≠ '&') (markup : c ≠ '<' ∧ c ≠ '>')
      (h : Escaped plain escaped) : Escaped (c :: plain) (c :: escaped)

theorem escaped_escape (s : String) : Escaped s.toList (escape s).toList := by
  rw [escape, String.toList_join, List.flatMap_map]
  induction s.toList with
  | nil => exact .nil
  | cons c text ih =>
      rw [List.flatMap_cons, escapedChar]
      split_ifs with hamp hlt hgt
      · subst hamp
        exact .amp ih
      · subst hlt
        exact .lt ih
      · subst hgt
        exact .gt ih
      · rw [Char.toString_eq_singleton, String.toList_singleton]
        exact .char hamp ⟨hlt, hgt⟩ ih

/-- **Escaped text is without markup.** -/
theorem Escaped.plain {text escaped : List Char} (h : Escaped text escaped) : Plain escaped := by
  induction h with
  | nil => decide
  | amp h ih => exact Plain.append (a := ['&', 'a', 'm', 'p', ';']) (by decide) ih
  | lt h ih => exact Plain.append (a := ['&', 'l', 't', ';']) (by decide) ih
  | gt h ih => exact Plain.append (a := ['&', 'g', 't', ';']) (by decide) ih
  | char amp markup h ih => exact plain_cons_iff.mpr ⟨markup, ih⟩

/-! ## Entities -/

/-- What stands behind the ampersand of an entity, and whatever follows. -/
def IsEntity (text : List Char) : Prop :=
  "amp;".toList <+: text ∨ "lt;".toList <+: text ∨ "gt;".toList <+: text

/-- **Every ampersand begins an entity.** -/
def Entities (text : List Char) : Prop := ∀ a b, text = a ++ '&' :: b → IsEntity b

theorem entities_cons {c : Char} {text : List Char} (hc : c = '&' → IsEntity text)
    (htext : Entities text) : Entities (c :: text) := by
  intro a b h
  cases a with
  | nil =>
      obtain ⟨hamp, rfl⟩ := List.cons.inj h
      exact hc hamp
  | cons c' a => exact htext a b (List.cons.inj h).2

theorem entities_append (name : List Char) {text : List Char} (hname : '&' ∉ name)
    (htext : Entities text) : Entities (name ++ text) := by
  induction name with
  | nil => exact htext
  | cons c name ih =>
      obtain ⟨hc, hrest⟩ := not_or.mp (mt List.mem_cons.mpr hname)
      exact entities_cons (fun h => absurd h.symm hc) (ih hrest)

/-- **In escaped text an ampersand begins an entity.** -/
theorem Escaped.entities {text escaped : List Char} (h : Escaped text escaped) :
    Entities escaped := by
  induction h with
  | nil =>
      intro a b h
      simp at h
  | amp h ih =>
      exact entities_cons (fun _ => .inl ⟨_, rfl⟩)
        (entities_append "amp;".toList (by decide) ih)
  | lt h ih =>
      exact entities_cons (fun _ => .inr (.inl ⟨_, rfl⟩))
        (entities_append "lt;".toList (by decide) ih)
  | gt h ih =>
      exact entities_cons (fun _ => .inr (.inr ⟨_, rfl⟩))
        (entities_append "gt;".toList (by decide) ih)
  | char amp markup h ih => exact entities_cons (fun hamp => absurd hamp amp) ih

/-! ## Reading entities -/

/-- Reads each entity as the character that it stands for, and every other character as itself. -/
def unescapeChars : List Char → List Char
  | '&' :: 'a' :: 'm' :: 'p' :: ';' :: text => '&' :: unescapeChars text
  | '&' :: 'l' :: 't' :: ';' :: text => '<' :: unescapeChars text
  | '&' :: 'g' :: 't' :: ';' :: text => '>' :: unescapeChars text
  | c :: text => c :: unescapeChars text
  | [] => []

/-- The text that an escaped text stands for. -/
def unescape (s : String) : String := String.ofList (unescapeChars s.toList)

theorem unescapeChars_cons {c : Char} (h : c ≠ '&') (text : List Char) :
    unescapeChars (c :: text) = c :: unescapeChars text := by
  simp [unescapeChars, h]

theorem Escaped.unescapeChars_eq {text escaped : List Char} (h : Escaped text escaped) :
    unescapeChars escaped = text := by
  induction h with
  | nil => rfl
  | amp h ih | lt h ih | gt h ih => rw [unescapeChars, ih]
  | char amp markup h ih => rw [unescapeChars_cons amp, ih]

/-- **A text is found again behind its entities.** -/
theorem unescape_escape (s : String) : unescape (escape s) = s := by
  rw [unescape, (escaped_escape s).unescapeChars_eq, String.ofList_toList]

end PacketLog.Xml
