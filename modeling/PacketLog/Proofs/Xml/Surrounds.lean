import Mathlib
import PacketLog.Proofs.Xml.Fragments

set_option autoImplicit false

/-! # The place of the log prefix

In a document the log prefix stands between two tags that occur nowhere else, in markup that has
nothing to do with it (`Xml.Surrounds`). So there is one place only where it can be looked for
(`Xml.Surrounds.eq_of_withPrefix`): what is found there is the log prefix that the document was made
with (`Xml.showsPrefix_of_surrounds`), and with another log prefix the document has the same tags
and the same text around it (`Xml.sameOutsidePrefix_of_surrounds`). -/

namespace PacketLog

namespace Xml

/-! ## The element of the log prefix -/

/-- **Markup around the log prefix**, none of it with the tags of the log prefix. -/
structure Surrounds (before behind : List Char) : Prop where
  before_closed : Closed before
  before_tags : ∀ t ∈ tags before, Other t
  behind_closed : Closed behind
  behind_tags : ∀ t ∈ tags behind, Other t

/-- A text as the log prefix of a document. -/
def withPrefix (before text behind : List Char) : List Char :=
  before ++ (prefixStart ++ (text ++ (prefixEnd ++ behind)))

namespace Surrounds

variable {before text behind : List Char}

/-- **The tags of the document** are the same whatever the text is, if it is without markup. -/
theorem tags_withPrefix (h : Surrounds before behind) (htext : Plain text) :
    tags (withPrefix before text behind) =
      tags before ++ prefixStart :: prefixEnd :: tags behind := by
  obtain ⟨htext_closed, htext_tags⟩ := htext.closed_tags
  rw [withPrefix, tags_append h.before_closed, prefixStart, tags_tag_append (by decide),
    tags_append htext_closed, htext_tags, prefixEnd, tags_tag_append (by decide), List.nil_append]

theorem sound (h : Surrounds before behind) (htext : Plain text) :
    Sound (withPrefix before text behind) where
  closed := by
    have hstart : Closed prefixStart := (closed_tags_tag (by decide)).1
    have hend : Closed prefixEnd := (closed_tags_tag (by decide)).1
    exact h.before_closed.append
      (hstart.append (htext.closed_tags.1.append (hend.append h.behind_closed)))
  names := by
    rw [h.tags_withPrefix htext, List.forall_mem_append, List.forall_mem_cons,
      List.forall_mem_cons]
    exact ⟨fun t ht => (h.before_tags t ht).1, by decide, by decide,
      fun t ht => (h.behind_tags t ht).1⟩

/-- The two tags of the log prefix occur once. -/
theorem count_withPrefix (h : Surrounds before behind) (htext : Plain text) :
    (tags (withPrefix before text behind)).count prefixStart = 1 ∧
      (tags (withPrefix before text behind)).count prefixEnd = 1 := by
  have hnot : ∀ {part : List Char}, (∀ t ∈ tags part, Other t) →
      (tags part).count prefixStart = 0 ∧ (tags part).count prefixEnd = 0 := by
    intro part hpart
    exact ⟨List.count_eq_zero.mpr fun hmem => (hpart _ hmem).2.1 rfl,
      List.count_eq_zero.mpr fun hmem => (hpart _ hmem).2.2 rfl⟩
  obtain ⟨hstart, hend⟩ := hnot h.before_tags
  obtain ⟨hstart', hend'⟩ := hnot h.behind_tags
  have hne : prefixEnd ≠ prefixStart := by decide
  rw [h.tags_withPrefix htext]
  simp only [List.count_append, hstart, hend, List.count_cons_self, List.count_cons_of_ne hne,
    List.count_cons_of_ne hne.symm, hstart', hend', Nat.zero_add, and_self]

/-- **There is one place only** where the log prefix can be looked for. -/
theorem eq_of_withPrefix (h : Surrounds before behind) (htext : Plain text)
    {before' text' behind' : List Char}
    (heq : withPrefix before text behind = withPrefix before' text' behind') :
    before = before' ∧ text = text' ∧ behind = behind' := by
  have hsound := h.sound htext
  obtain ⟨hstart, hend⟩ := h.count_withPrefix htext
  obtain ⟨rfl, hrest⟩ := hsound.eq_of_count (by decide) hstart.le heq
  -- The end is looked for in the same document, behind the start and the text.
  have hassoc : ∀ text behind, withPrefix before text behind =
      (before ++ prefixStart ++ text) ++ (prefixEnd ++ behind) := by
    intro text behind
    simp only [withPrefix, List.append_assoc]
  rw [hassoc] at hsound hend heq
  rw [hassoc] at heq
  obtain ⟨htexts, rfl⟩ := hsound.eq_of_count (by decide) hend.le heq
  exact ⟨rfl, List.append_cancel_left htexts, rfl⟩

end Surrounds

/-! ## Documents -/

/-- The document is `before`, the log prefix with what stands between its tags, and `behind`. -/
def PrefixAt (document before text behind : String) : Prop :=
  document = before ++ "<prefix>" ++ text ++ "</prefix>" ++ behind

theorem prefixAt_iff {document before text behind : String} :
    PrefixAt document before text behind ↔
      document.toList = withPrefix before.toList text.toList behind.toList := by
  have hstart : "<prefix>".toList = prefixStart := by decide
  have hend : "</prefix>".toList = prefixEnd := by decide
  rw [PrefixAt, ← String.toList_inj]
  simp only [String.toList_append, hstart, hend, withPrefix, List.append_assoc]

/-- **The document shows a log prefix**, and wherever it is looked for, what is found is that text
without markup of its own. -/
structure ShowsPrefix (shown document : String) : Prop where
  found : ∃ before text behind, PrefixAt document before text behind
  plain : ∀ before text behind, PrefixAt document before text behind → Plain text.toList
  entities : ∀ before text behind, PrefixAt document before text behind → Entities text.toList
  unescaped : ∀ before text behind, PrefixAt document before text behind → unescape text = shown

/-- **The two documents differ in the log prefix only**, if they differ at all. -/
structure SameOutsidePrefix (document document' : String) : Prop where
  tags : tags document.toList = tags document'.toList
  same : document = document' ∨
    ∃ before text text' behind, PrefixAt document before text behind ∧
      PrefixAt document' before text' behind
  outside : ∀ before text behind before' text' behind', PrefixAt document before text behind →
    PrefixAt document' before' text' behind' → before = before' ∧ behind = behind'

/-- Pieces of markup can stand around a log prefix. -/
theorem surrounds_of_pieces {before behind : List String} (hbefore : ∀ s ∈ before, Piece s)
    (hbehind : ∀ s ∈ behind, Piece s) :
    Surrounds (String.join before).toList (String.join behind).toList := by
  have hjoin : ∀ {pieces : List String}, (∀ s ∈ pieces, Piece s) →
      Closed (String.join pieces).toList ∧ ∀ t ∈ tags (String.join pieces).toList, Other t := by
    intro pieces hpieces
    induction pieces with
    | nil => exact ⟨rfl, List.forall_mem_nil _⟩
    | cons s pieces ih =>
        obtain ⟨hs, hrest⟩ := List.forall_mem_cons.mp hpieces
        obtain ⟨hclosed, htags⟩ := ih hrest
        rw [String.join_cons, String.toList_append, tags_append hs.closed]
        exact ⟨hs.closed.append hclosed, List.forall_mem_append.mpr ⟨hs.tags, htags⟩⟩
  obtain ⟨hbefore_closed, hbefore_tags⟩ := hjoin hbefore
  obtain ⟨hbehind_closed, hbehind_tags⟩ := hjoin hbehind
  exact ⟨hbefore_closed, hbefore_tags, hbehind_closed, hbehind_tags⟩

variable {before behind : String}

theorem prefixAt_element (before text behind : String) :
    PrefixAt (before ++ element "prefix" text ++ behind) before text behind := by
  have hname : "prefix".toList = prefixName := by decide
  rw [prefixAt_iff]
  simp only [String.toList_append, toList_element, hname, withPrefix, prefixStart, prefixEnd,
    List.append_assoc]

/-- What is found in a document is what it was made of. -/
theorem eq_of_prefixAt (h : Surrounds before.toList behind.toList) {text : String}
    (htext : Plain text.toList) {before' text' behind' : String}
    (hat : PrefixAt (before ++ element "prefix" text ++ behind) before' text' behind') :
    before = before' ∧ text = text' ∧ behind = behind' := by
  have hmade := prefixAt_iff.mp (prefixAt_element before text behind)
  rw [prefixAt_iff, hmade] at hat
  simpa only [String.toList_inj] using h.eq_of_withPrefix htext hat

/-- **A document shows the log prefix that it was made with.** -/
theorem showsPrefix_of_surrounds (h : Surrounds before.toList behind.toList) (shown : String) :
    ShowsPrefix shown (before ++ element "prefix" (escape shown) ++ behind) := by
  have hescaped := escaped_escape shown
  have hfound : ∀ {before' text behind'},
      PrefixAt (before ++ element "prefix" (escape shown) ++ behind) before' text behind' →
        escape shown = text := fun hat => (eq_of_prefixAt h hescaped.plain hat).2.1
  exact {
    found := ⟨before, escape shown, behind, prefixAt_element _ _ _⟩
    plain := fun _ _ _ hat => hfound hat ▸ hescaped.plain
    entities := fun _ _ _ hat => hfound hat ▸ hescaped.entities
    unescaped := fun _ _ _ hat => hfound hat ▸ unescape_escape shown }

/-- **Two documents that are made with different log prefixes** are the same outside of them. -/
theorem sameOutsidePrefix_of_surrounds (h : Surrounds before.toList behind.toList)
    (shown shown' : String) :
    SameOutsidePrefix (before ++ element "prefix" (escape shown) ++ behind)
      (before ++ element "prefix" (escape shown') ++ behind) where
  tags := by
    have hmade := fun text => prefixAt_iff.mp (prefixAt_element before text behind)
    rw [hmade, hmade, h.tags_withPrefix (escaped_escape shown).plain,
      h.tags_withPrefix (escaped_escape shown').plain]
  same := .inr ⟨before, escape shown, escape shown', behind, prefixAt_element _ _ _,
    prefixAt_element _ _ _⟩
  outside := by
    intro _ _ _ _ _ _ hat hat'
    obtain ⟨rfl, -, rfl⟩ := eq_of_prefixAt h (escaped_escape shown).plain hat
    obtain ⟨rfl, -, rfl⟩ := eq_of_prefixAt h (escaped_escape shown').plain hat'
    exact ⟨rfl, rfl⟩

/-- Without the log prefix, none is found. -/
theorem not_prefixAt (h : Surrounds before.toList behind.toList) (before' text' behind' : String) :
    ¬PrefixAt (before ++ behind) before' text' behind' := by
  intro hat
  rw [prefixAt_iff, String.toList_append] at hat
  have htags : ∀ t ∈ tags (before.toList ++ behind.toList), Other t := by
    rw [tags_append h.before_closed]
    exact List.forall_mem_append.mpr ⟨h.before_tags, h.behind_tags⟩
  have hsound : Sound (before.toList ++ behind.toList) :=
    ⟨h.before_closed.append h.behind_closed, fun t ht => (htags t ht).1⟩
  rw [hat] at hsound htags
  have hclosed : Closed before'.toList := hsound.closed_of_append
  have hmem : prefixStart ∈ tags (withPrefix before'.toList text'.toList behind'.toList) := by
    rw [withPrefix, tags_append hclosed, prefixStart, tags_tag_append (by decide)]
    exact List.mem_append_right _ List.mem_cons_self
  exact (htags _ hmem).2.1 rfl

/-- A document without a log prefix does not depend on it. -/
theorem sameOutsidePrefix_refl (h : Surrounds before.toList behind.toList) :
    SameOutsidePrefix (before ++ behind) (before ++ behind) where
  tags := rfl
  same := .inl rfl
  outside := fun _ _ _ _ _ _ hat => absurd hat (not_prefixAt h _ _ _)

end Xml

end PacketLog
