import Mathlib
import PacketLog.Proofs.Xml.Fragments

set_option autoImplicit false

/-! # Well-formed XML

What may stand in an element of an XML document is given by a grammar (`Xml.Content`): characters
that are not markup, references, and elements whose start tag and end tag have the same name. A
document is well-formed if it is one element of this kind that consists of characters of XML only
(`Xml.WellFormed`). Every text can stand in an element once it is escaped
(`Xml.Escaped.content`), but a character that XML does not have stays one
(`Xml.Escaped.legible_iff`). -/

namespace PacketLog.Xml

/-! ## Characters -/

/-- **The characters of XML 1.0**: besides tab and the two ends of a line no control characters, and
not the last two code points of the first plane. -/
def IsXmlChar (c : Char) : Prop :=
  c = '\t' ∨ c = '\n' ∨ c = '\r' ∨ (0x20 ≤ c.toNat ∧ c.toNat ≤ 0xd7ff) ∨
    (0xe000 ≤ c.toNat ∧ c.toNat ≤ 0xfffd) ∨ (0x10000 ≤ c.toNat ∧ c.toNat ≤ 0x10ffff)

instance (c : Char) : Decidable (IsXmlChar c) := inferInstanceAs (Decidable (_ ∨ _))

/-- A text of characters of XML. -/
def Legible (text : List Char) : Prop := ∀ c ∈ text, IsXmlChar c

instance (text : List Char) : Decidable (Legible text) := List.decidableBAll IsXmlChar text

theorem legible_append_iff {a b : List Char} : Legible (a ++ b) ↔ Legible a ∧ Legible b :=
  List.forall_mem_append

theorem Word.legible {text : List Char} (h : Word text) : Legible text := by
  intro c hc
  obtain ⟨hlow, hhigh, -⟩ := h c hc
  have hrange : 0x20 ≤ c.toNat ∧ c.toNat ≤ 0xd7ff := ⟨hlow, by omega⟩
  exact .inr (.inr (.inr (.inl hrange)))

theorem legible_append_left {a : List Char} (ha : Legible a) (b : List Char) :
    Legible (a ++ b) ↔ Legible b := legible_append_iff.trans (and_iff_right ha)

/-- **Escaping neither adds nor removes a character that XML does not have.** -/
theorem Escaped.legible_iff {text escaped : List Char} (h : Escaped text escaped) :
    Legible escaped ↔ Legible text := by
  -- Behind a reference and behind the character that it stands for there is the same to say.
  have hreference : ∀ (name : List Char) {plain escaped : List Char} {c : Char},
      Legible name → IsXmlChar c → (Legible escaped ↔ Legible plain) →
        (Legible (name ++ escaped) ↔ Legible (c :: plain)) :=
    fun _ _ _ _ hname hc ih => (legible_append_left hname _).trans
      (ih.trans (legible_append_left (List.forall_mem_singleton.mpr hc) _).symm)
  induction h with
  | nil => exact Iff.rfl
  | amp h ih => exact hreference "&amp;".toList (by decide) (by decide) ih
  | lt h ih => exact hreference "&lt;".toList (by decide) (by decide) ih
  | gt h ih => exact hreference "&gt;".toList (by decide) (by decide) ih
  | char amp markup h ih =>
      exact List.forall_mem_cons.trans ((and_congr_right' ih).trans List.forall_mem_cons.symm)

/-! ## Content -/

/-- The references that a document has. -/
def references : List (List Char) := ["&amp;".toList, "&lt;".toList, "&gt;".toList]

/-- The name of an element, of which lowercase letters are enough here. -/
def IsElementName (name : List Char) : Prop :=
  name ≠ [] ∧ ∀ c ∈ name, 0x61 ≤ c.toNat ∧ c.toNat ≤ 0x7a

instance (name : List Char) : Decidable (IsElementName name) :=
  have : Decidable (∀ c ∈ name, 0x61 ≤ c.toNat ∧ c.toNat ≤ 0x7a) := List.decidableBAll _ name
  inferInstanceAs (Decidable (_ ∧ _))

/-- **What may stand in an element**: characters, references and whole elements, in any order. -/
inductive Content : List Char → Prop
  | nil : Content []
  | char {c : Char} {rest : List Char} (amp : c ≠ '&') (markup : c ≠ '<' ∧ c ≠ '>')
      (later : Content rest) : Content (c :: rest)
  | reference {name rest : List Char} (known : name ∈ references) (later : Content rest) :
      Content (name ++ rest)
  | element {name inner rest : List Char} (named : IsElementName name) (inside : Content inner)
      (later : Content rest) :
      Content (tag name ++ (inner ++ (tag ('/' :: name) ++ rest)))

theorem Content.append {a b : List Char} (ha : Content a) (hb : Content b) :
    Content (a ++ b) := by
  -- By induction on the first text: the second takes the place of its empty end.
  induction ha with
  | nil => exact hb
  | char amp markup _ ih => exact .char amp markup ih
  | reference known _ ih =>
      rw [List.append_assoc]
      exact .reference known ih
  | element named inside _ _ ih =>
      simp only [List.append_assoc]
      exact .element named inside ih

/-- **An element may stand in an element** if what is in it may. -/
theorem content_element {name text : String} (hname : IsElementName name.toList)
    (htext : Content text.toList) : Content (element name text).toList := by
  rw [toList_element, ← List.append_nil (tag ('/' :: name.toList))]
  exact .element hname htext .nil

theorem Word.content {text : List Char} (h : Word text) : Content text := by
  induction text with
  | nil => exact .nil
  | cons c text ih =>
      obtain ⟨⟨-, -, hamp, hmarkup⟩, hrest⟩ := List.forall_mem_cons.mp h
      exact .char hamp hmarkup (ih hrest)

/-- **Every text may stand in an element once it is escaped.** -/
theorem Escaped.content {text escaped : List Char} (h : Escaped text escaped) :
    Content escaped := by
  induction h with
  | nil => exact .nil
  | amp h ih => exact .reference (show "&amp;".toList ∈ references by decide) ih
  | lt h ih => exact .reference (show "&lt;".toList ∈ references by decide) ih
  | gt h ih => exact .reference (show "&gt;".toList ∈ references by decide) ih
  | char amp markup h ih => exact .char amp markup ih

/-! ## Ampersands -/

theorem IsEntity.append {text : List Char} (h : IsEntity text) (later : List Char) :
    IsEntity (text ++ later) := by
  have hlonger : text <+: text ++ later := List.prefix_append text later
  exact h.imp (·.trans hlonger) (.imp (·.trans hlonger) (·.trans hlonger))

theorem Entities.append {a b : List Char} (ha : Entities a) (hb : Entities b) :
    Entities (a ++ b) := by
  induction a with
  | nil => exact hb
  | cons c a ih =>
      have hrest : Entities a := by
        rintro before behind rfl
        exact ha (c :: before) behind rfl
      refine entities_cons ?_ (ih hrest)
      rintro rfl
      exact (ha [] a rfl).append b

/-- A text without an ampersand. -/
theorem entities_of_not_mem {text : List Char} (h : '&' ∉ text) : Entities text := by
  rintro before behind rfl
  exact absurd (List.mem_append_right before List.mem_cons_self) h

theorem entities_tag {name : List Char} (h : '&' ∉ name) : Entities (tag name) := by
  refine entities_of_not_mem ?_
  simp [tag, h]

/-- **In the content of an element every ampersand begins a reference.** -/
theorem Content.entities {text : List Char} (h : Content text) : Entities text := by
  induction h with
  | nil => exact entities_of_not_mem List.not_mem_nil
  | char amp _ _ ih => exact entities_cons (fun hamp => absurd hamp amp) ih
  | reference known _ ih =>
      refine Entities.append ?_ ih
      simp only [references, List.mem_cons, List.not_mem_nil, or_false] at known
      obtain rfl | rfl | rfl := known
      · exact (Escaped.amp .nil).entities
      · exact (Escaped.lt .nil).entities
      · exact (Escaped.gt .nil).entities
  | element named _ _ ihinner ihrest =>
      -- The tags have names, so that there is no ampersand in them.
      have hname : '&' ∉ _ := fun hmem => absurd (named.2 _ hmem) (by decide)
      have hend : '&' ∉ '/' :: _ := List.not_mem_cons_of_ne_of_not_mem (by decide) hname
      exact (entities_tag hname).append (ihinner.append ((entities_tag hend).append ihrest))

/-! ## Documents -/

/-- **One element that holds everything**: its tags, and those of the elements in it, are nested. -/
def Rooted (name document : String) : Prop :=
  ∃ inner : String, Content inner.toList ∧ document = element name inner

/-- **A well-formed document** with a root element of this name. -/
structure WellFormed (name document : String) : Prop where
  legible : Legible document.toList
  rooted : Rooted name document
  references : Entities document.toList

theorem Rooted.entities {name document : String} (hname : IsElementName name.toList)
    (h : Rooted name document) : Entities document.toList := by
  obtain ⟨inner, hinner, rfl⟩ := h
  exact (content_element hname hinner).entities

end PacketLog.Xml
