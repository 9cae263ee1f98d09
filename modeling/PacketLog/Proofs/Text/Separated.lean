import Mathlib
import PacketLog.Text.Separated

set_option autoImplicit false

/-! # Pieces of a list

The pieces of a text are those between its separators (`Text.pieces_eq_splitOn`), so a separator
between two texts keeps the pieces of both (`Text.splitOn_append_cons`). A piece bears a text that
stands in it between blanks (`Text.Bears`), and trimming finds just that (`Text.bears_iff`). -/

namespace PacketLog.Text

/-! ## Cutting -/

theorem pieces_ne_nil (sep : Char) (cs : List Char) : pieces sep cs ≠ [] := by
  cases cs with
  | nil => exact List.cons_ne_nil _ _
  | cons c cs =>
      rw [pieces]
      split
      · exact List.cons_ne_nil _ _
      · split <;> exact List.cons_ne_nil _ _

/-- **The pieces are those between the separators.** -/
theorem pieces_eq_splitOn (sep : Char) (cs : List Char) : pieces sep cs = cs.splitOn sep := by
  induction cs with
  | nil => rfl
  | cons c cs ih =>
      have hcut : (c :: cs).splitOn sep = if c == sep then [] :: cs.splitOn sep
          else (cs.splitOn sep).modifyHead (c :: ·) := by
        simp only [List.splitOn_eq_splitOnP, List.splitOnP_cons_eq_if_modifyHead]
      obtain ⟨piece, rest, hpieces⟩ := List.exists_cons_of_ne_nil (pieces_ne_nil sep cs)
      rw [hcut, ← ih, pieces, hpieces]
      by_cases h : c = sep
      · simp [h]
      · simp [h]

/-- A separator cuts a text into the pieces before it and those behind it. -/
theorem splitOn_append_cons (sep : Char) (front back : List Char) :
    (front ++ sep :: back).splitOn sep = front.splitOn sep ++ back.splitOn sep := by
  simp only [List.splitOn_eq_splitOnP]
  exact List.splitOnP_append_cons front back (beq_self_eq_true sep)

/-! ## Trimming -/

/-- **A piece bears a text** that stands in it between blanks, and that neither begins nor ends with
a blank. -/
structure Bears (piece text : List Char) : Prop where
  between : ∃ before behind, piece = before ++ text ++ behind ∧
    ∀ c ∈ before ++ behind, isBlank c = true
  first : ∀ c ∈ text.head?, isBlank c = false
  last : ∀ c ∈ text.getLast?, isBlank c = false

/-- Behind the blanks at the start there is none. -/
theorem head?_dropWhile_isBlank (cs : List Char) :
    ∀ c ∈ (cs.dropWhile isBlank).head?, isBlank c = false := by
  intro c hc
  have hnot := List.head?_dropWhile_not isBlank cs
  rw [Option.mem_def.mp hc] at hnot
  exact hnot

/-- What does not begin with a blank is left as it is. -/
theorem dropWhile_isBlank_eq {cs : List Char} (h : ∀ c ∈ cs.head?, isBlank c = false) :
    cs.dropWhile isBlank = cs := by
  cases cs with
  | nil => rfl
  | cons c cs => exact List.dropWhile_cons_of_neg (by simp [h c rfl])

/-- What neither begins nor ends with a blank is found between any blanks. -/
theorem Bears.trim_eq {piece text : List Char} (h : Bears piece text) : trim piece = text := by
  obtain ⟨before, behind, rfl, hblank⟩ := h.between
  obtain ⟨hbefore, hbehind⟩ := List.forall_mem_append.mp hblank
  have hreverse : ∀ c ∈ behind.reverse, isBlank c = true :=
    fun c hc => hbehind c (List.mem_reverse.mp hc)
  have hlast : ∀ c ∈ text.reverse.head?, isBlank c = false := by
    rw [List.head?_reverse]
    exact h.last
  rw [trim, List.append_assoc, List.dropWhile_append_of_pos hbefore]
  cases htext : text with
  | nil =>
      rw [List.nil_append, List.dropWhile_eq_nil_iff.mpr hbehind]
      rfl
  | cons c cs =>
      have hfront : (text ++ behind).dropWhile isBlank = text ++ behind := by
        refine dropWhile_isBlank_eq ?_
        rw [htext]
        intro d hd
        exact h.first d (by rw [htext]; exact hd)
      rw [← htext, hfront, List.reverse_append, List.dropWhile_append_of_pos hreverse,
        dropWhile_isBlank_eq hlast, List.reverse_reverse]

theorem bears_trim (piece : List Char) : Bears piece (trim piece) where
  between := by
    let inner := piece.dropWhile isBlank
    refine ⟨piece.takeWhile isBlank, (inner.reverse.takeWhile isBlank).reverse, ?_, ?_⟩
    · have hinner : trim piece ++ (inner.reverse.takeWhile isBlank).reverse = inner := by
        rw [trim, ← List.reverse_append, List.takeWhile_append_dropWhile, List.reverse_reverse]
      rw [List.append_assoc, hinner, List.takeWhile_append_dropWhile]
    · refine List.forall_mem_append.mpr ⟨?_, ?_⟩
      · intro c hc
        exact List.mem_takeWhile_imp hc
      · intro c hc
        exact List.mem_takeWhile_imp (List.mem_reverse.mp hc)
  first := by
    -- what is cut off at the end leaves the first character as it is
    have hprefix : trim piece <+: piece.dropWhile isBlank := List.rdropWhile_prefix isBlank _
    intro c hc
    refine head?_dropWhile_isBlank piece c ?_
    obtain ⟨later, hlater⟩ := hprefix
    rw [← hlater, List.head?_append, Option.mem_def.mp hc]
    rfl
  last := by
    rw [trim, List.getLast?_reverse]
    exact head?_dropWhile_isBlank _

/-- **Trimming finds what a piece bears.** -/
theorem bears_iff {piece text : List Char} : Bears piece text ↔ trim piece = text := by
  constructor
  · exact Bears.trim_eq
  · rintro rfl
    exact bears_trim piece

end PacketLog.Text
