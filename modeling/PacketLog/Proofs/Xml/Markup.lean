import Mathlib

set_option autoImplicit false

/-! # Tags

A reader of markup goes through a text character by character. It is outside of every tag, or
inside of one of which it has read some characters; `Xml.tags` lists the tags that it meets, each
from a `<` to the next `>`. A text that leaves the reader outside of every tag can be followed by
another one without a tag being lost or made up (`Xml.tags_append`). In a text without `<` inside a
tag (`Xml.Sound`), a tag that occurs once stands at one place only (`Xml.Sound.eq_of_count`). -/

namespace PacketLog.Xml

/-! ## Reading tags -/

/-- **Where a reader of markup stands** behind one character more: `none` is outside of every tag,
and `some name` inside of a tag of which it has read `name` so far. -/
def place : Option (List Char) → Char → Option (List Char)
  | none, c => if c = '<' then some [] else none
  | some name, c => if c = '>' then none else some (name ++ [c])

/-- Where a reader stands behind a text. -/
def placeAfter (start : Option (List Char)) (text : List Char) : Option (List Char) :=
  text.foldl place start

/-- The tag that begins with `<`, goes on with a name and ends with `>`. -/
def tag (name : List Char) : List Char := '<' :: (name ++ ['>'])

/-- The tag that ends with a character, if one does. -/
def ended : Option (List Char) → Char → List (List Char)
  | none, _ => []
  | some name, c => if c = '>' then [tag name] else []

/-- The tags that a reader meets in a text. -/
def tagsFrom : Option (List Char) → List Char → List (List Char)
  | _, [] => []
  | start, c :: text => ended start c ++ tagsFrom (place start c) text

/-- **The tags of a text**, each from a `<` to the next `>`. -/
def tags (text : List Char) : List (List Char) := tagsFrom none text

/-- A text that leaves a reader outside of every tag. -/
def Closed (text : List Char) : Prop := placeAfter none text = none

instance (text : List Char) : Decidable (Closed text) := inferInstanceAs (Decidable (_ = _))

theorem placeAfter_cons (start : Option (List Char)) (c : Char) (text : List Char) :
    placeAfter start (c :: text) = placeAfter (place start c) text := rfl

theorem placeAfter_append (start : Option (List Char)) (a b : List Char) :
    placeAfter start (a ++ b) = placeAfter (placeAfter start a) b := List.foldl_append

/-- **The tags of a text are those of its parts**, the later part read from where the earlier one
ends. -/
theorem tagsFrom_append (start : Option (List Char)) (a b : List Char) :
    tagsFrom start (a ++ b) = tagsFrom start a ++ tagsFrom (placeAfter start a) b := by
  induction a generalizing start with
  | nil => rfl
  | cons c a ih =>
      rw [List.cons_append, tagsFrom, ih, tagsFrom, List.append_assoc]
      rfl

theorem tags_append {a : List Char} (h : Closed a) (b : List Char) :
    tags (a ++ b) = tags a ++ tags b := by
  rw [tags, tagsFrom_append, h]
  rfl

theorem Closed.append {a b : List Char} (ha : Closed a) (hb : Closed b) : Closed (a ++ b) := by
  rw [Closed, placeAfter_append, ha]
  exact hb

/-- What follows a closed text is closed if the whole is. -/
theorem Closed.of_append {a b : List Char} (ha : Closed a) (h : Closed (a ++ b)) : Closed b := by
  rw [Closed, placeAfter_append, ha] at h
  exact h

/-! ## Texts without markup and tags -/

/-- **A text without markup.** -/
def Plain (text : List Char) : Prop := '<' ∉ text ∧ '>' ∉ text

instance (text : List Char) : Decidable (Plain text) := inferInstanceAs (Decidable (_ ∧ _))

theorem plain_cons_iff {c : Char} {text : List Char} :
    Plain (c :: text) ↔ (c ≠ '<' ∧ c ≠ '>') ∧ Plain text := by
  simp only [Plain, List.mem_cons, not_or, ne_comm (a := c)]
  exact and_and_and_comm

theorem Plain.append {a b : List Char} (ha : Plain a) (hb : Plain b) : Plain (a ++ b) := by
  simp only [Plain, List.mem_append, not_or]
  exact ⟨⟨ha.1, hb.1⟩, ha.2, hb.2⟩

/-- A text without markup has no tags and opens none. -/
theorem Plain.closed_tags {text : List Char} (h : Plain text) : Closed text ∧ tags text = [] := by
  induction text with
  | nil => exact ⟨rfl, rfl⟩
  | cons c text ih =>
      obtain ⟨hc, htext⟩ := plain_cons_iff.mp h
      have hplace : place none c = none := if_neg hc.1
      obtain ⟨hclosed, htags⟩ := ih htext
      constructor
      · rw [Closed, placeAfter_cons, hplace]
        exact hclosed
      · rw [tags, tagsFrom, hplace]
        exact htags

/-- Inside of a tag, a text without `>` is read as a part of its name. -/
theorem read_name (name : List Char) {text : List Char} (h : '>' ∉ text) :
    placeAfter (some name) text = some (name ++ text) ∧ tagsFrom (some name) text = [] := by
  induction text generalizing name with
  | nil => simp [placeAfter, tagsFrom]
  | cons c text ih =>
      obtain ⟨hc, htext⟩ := not_or.mp (mt List.mem_cons.mpr h)
      have hplace : place (some name) c = some (name ++ [c]) := if_neg (Ne.symm hc)
      have hended : ended (some name) c = [] := if_neg (Ne.symm hc)
      obtain ⟨hafter, htags⟩ := ih (name ++ [c]) htext
      constructor
      · rw [placeAfter_cons, hplace]
        simpa using hafter
      · rw [tagsFrom, hplace, hended, htags]
        rfl

/-- A tag has itself as its only tag, and is closed. -/
theorem closed_tags_tag {name : List Char} (h : '>' ∉ name) :
    Closed (tag name) ∧ tags (tag name) = [tag name] := by
  have hopen : place none '<' = some [] := rfl
  obtain ⟨hafter, htags⟩ := read_name [] h
  constructor
  · rw [Closed, tag, placeAfter_cons, hopen]
    rw [placeAfter_append, hafter]
    rfl
  · rw [tag, tags, tagsFrom, hopen, tagsFrom_append, hafter, htags]
    rfl

/-! ## The place of a tag -/

/-- A reader that gets out of a tag meets it, whatever of it was read before. -/
theorem exists_tag_of_closed (name : List Char) {text : List Char}
    (h : placeAfter (some name) text = none) :
    ∃ rest later, tagsFrom (some name) text = tag (name ++ rest) :: later := by
  induction text generalizing name with
  | nil => cases h
  | cons c text ih =>
      by_cases hc : c = '>'
      · subst hc
        exact ⟨[], tagsFrom none text, by rw [List.append_nil]; rfl⟩
      · have hplace : place (some name) c = some (name ++ [c]) := if_neg hc
        have hended : ended (some name) c = [] := if_neg hc
        rw [placeAfter_cons, hplace] at h
        obtain ⟨rest, later, hmeets⟩ := ih (name ++ [c]) h
        refine ⟨c :: rest, later, ?_⟩
        rw [tagsFrom, hplace, hended, hmeets]
        simp

/-- **Sound markup**: every tag is closed, and none has a `<` inside. -/
structure Sound (text : List Char) : Prop where
  closed : Closed text
  names : ∀ t ∈ tags text, '<' ∉ t.tail

/-- In sound markup, what stands before a `<` is closed. -/
theorem Sound.closed_of_append {a b : List Char} (h : Sound (a ++ '<' :: b)) : Closed a := by
  have hclosed := h.closed
  rw [Closed, placeAfter_append] at hclosed
  cases hplace : placeAfter none a with
  | none => exact hplace
  | some name =>
      -- The reader would stand inside of a tag, and take the `<` as a part of its name.
      rw [hplace] at hclosed
      obtain ⟨rest, later, hmeets⟩ := exists_tag_of_closed (name ++ ['<']) hclosed
      have hmem : tag (name ++ ['<'] ++ rest) ∈ tags (a ++ '<' :: b) := by
        rw [tags, tagsFrom_append, hplace]
        refine List.mem_append_right _ ?_
        show _ ∈ tagsFrom (some (name ++ ['<'])) b
        rw [hmeets]
        exact List.mem_cons_self
      refine absurd ?_ (h.names _ hmem)
      simp [tag]

/-- Closed markup that begins with `<` has a tag. -/
theorem tags_ne_nil {text : List Char} (h : Closed ('<' :: text)) : tags ('<' :: text) ≠ [] := by
  obtain ⟨rest, later, hmeets⟩ := exists_tag_of_closed [] h
  show tagsFrom (some []) text ≠ []
  rw [hmeets]
  exact List.cons_ne_nil _ _

theorem tags_tag_append {name : List Char} (hname : '>' ∉ name) (b : List Char) :
    tags (tag name ++ b) = tag name :: tags b := by
  obtain ⟨hclosed, htags⟩ := closed_tags_tag hname
  rw [tags_append hclosed, htags, List.singleton_append]

/-- Nothing fits between two places of a tag that occurs once. -/
theorem Sound.eq_nil_of_count {name a m b b' : List Char} (hname : '>' ∉ name)
    (h : Sound (a ++ (m ++ (tag name ++ b'))))
    (hcount : (tags (a ++ (m ++ (tag name ++ b')))).count (tag name) ≤ 1)
    (heq : tag name ++ b = m ++ (tag name ++ b')) : m = [] := by
  cases m with
  | nil => rfl
  | cons c m =>
      -- What stands between begins as the tag does, and so it has the tag itself.
      have hc : c = '<' := (List.cons.inj heq).1.symm
      subst hc
      have ha : Closed a := h.closed_of_append
      have ham : Closed (a ++ '<' :: m) := by
        refine Sound.closed_of_append (b := name ++ ['>'] ++ b') ?_
        rw [List.append_assoc]
        exact h
      have hm : Closed ('<' :: m) := ha.of_append ham
      have htags := congrArg tags heq
      rw [tags_tag_append hname, tags_append hm, tags_tag_append hname] at htags
      obtain ⟨t, later, ht⟩ := List.exists_cons_of_ne_nil (tags_ne_nil hm)
      rw [ht, List.cons_append] at htags
      rw [tags_append ha, tags_append hm, tags_tag_append hname, ht,
        ← (List.cons.inj htags).1] at hcount
      simp only [List.count_append, List.count_cons_self] at hcount
      omega

/-- **A tag that occurs once stands at one place only.** -/
theorem Sound.eq_of_count {name a b a' b' : List Char} (hname : '>' ∉ name)
    (h : Sound (a ++ (tag name ++ b)))
    (hcount : (tags (a ++ (tag name ++ b))).count (tag name) ≤ 1)
    (heq : a ++ (tag name ++ b) = a' ++ (tag name ++ b')) : a = a' ∧ b = b' := by
  -- Whichever place is the later one, `m` is what stands between the two.
  obtain ⟨m, rfl, hm⟩ | ⟨m, rfl, hm⟩ := List.append_eq_append_iff.mp heq
  · rw [heq, List.append_assoc] at h hcount
    have hnil := h.eq_nil_of_count hname hcount hm
    subst hnil
    exact ⟨(List.append_nil a).symm, List.append_cancel_left hm⟩
  · rw [List.append_assoc] at h hcount
    have hnil := h.eq_nil_of_count hname hcount hm
    subst hnil
    exact ⟨List.append_nil a', (List.append_cancel_left hm).symm⟩

end PacketLog.Xml
