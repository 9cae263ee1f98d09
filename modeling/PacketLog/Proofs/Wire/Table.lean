import Mathlib
import PacketLog.Proofs.Wire.Scan

set_option autoImplicit false

/-! # What a table holds

A table of a sequence without an error holds, of each type that it indexes, the last attribute of
the sequence (`AttrTable.attr_foldl_add`). So an attribute that is the only one of its type is
found under it (`AttrTable.attr_of_only`), and what is found under any other type is the same
without it (`AttrTable.attr_of_other`). -/

namespace PacketLog

namespace AttrTable

variable (t : AttrTable) (attrs before after : List Attr) (a : Attr) (kind : UInt16)

theorem maxKind_add : (t.add a).maxKind = t.maxKind := by
  rw [add]
  split_ifs <;> rfl

theorem maxKind_foldl_add : (attrs.foldl add t).maxKind = t.maxKind := by
  induction attrs generalizing t with
  | nil => rfl
  | cons a attrs ih => rw [List.foldl_cons, ih, maxKind_add]

/-- One more attribute is seen under its own type only, and only if that is indexed. -/
theorem attr_add_eq :
    (t.add a).attr kind =
      if a.kind = kind ∧ Indexes t.maxKind kind then some a else t.attr kind := by
  by_cases hindexed : Indexes t.maxKind a.kind
  · rw [attr_add hindexed]
    by_cases hkind : a.kind = kind
    · subst hkind
      rw [if_pos rfl, if_pos ⟨rfl, hindexed⟩]
    · rw [if_neg hkind, if_neg (fun h => hkind h.1)]
  · have hsame : (t.add a).attr kind = t.attr kind := by
      rw [add, if_neg hindexed]
      rfl
    rw [hsame, if_neg]
    rintro ⟨rfl, h⟩
    exact hindexed h

/-- The attributes of a sequence that a table up to `maxKind` keeps under a type, the last one
winning. -/
def under (maxKind kind : UInt16) (attrs : List Attr) : List Attr :=
  attrs.filter fun a => a.kind = kind ∧ Indexes maxKind kind

/-- **The last attribute of a type is kept**, if the type is indexed. -/
theorem attr_foldl_add :
    (attrs.foldl add t).attr kind = ((under t.maxKind kind attrs).getLast?).or (t.attr kind) := by
  -- From the end of the sequence: what the last attribute does hides what came before it.
  induction attrs using List.reverseRecOn with
  | nil => rfl
  | append_singleton attrs a ih =>
      rw [List.foldl_append, List.foldl_cons, List.foldl_nil, attr_add_eq, maxKind_foldl_add, ih,
        under, under, List.filter_append]
      by_cases hkept : a.kind = kind ∧ Indexes t.maxKind kind
      · simp [hkept]
      · simp [hkept]

/-- **An attribute that is the only one of its type** is found under it. -/
theorem attr_of_only (h : Indexes t.maxKind a.kind)
    (hothers : ∀ b ∈ before ++ after, b.kind ≠ a.kind) :
    ((before ++ a :: after).foldl add t).attr a.kind = some a := by
  have hnone : ∀ attrs : List Attr, (∀ b ∈ attrs, b.kind ≠ a.kind) →
      under t.maxKind a.kind attrs = [] := by
    intro attrs hattrs
    exact List.filter_eq_nil_iff.mpr fun b hb => by simp [hattrs b hb]
  obtain ⟨hbefore, hafter⟩ := List.forall_mem_append.mp hothers
  have hunder : under t.maxKind a.kind (before ++ a :: after) = [a] := by
    rw [under, List.filter_append, List.filter_cons_of_pos (by simp [h]), ← under, ← under,
      hnone before hbefore, hnone after hafter, List.nil_append]
  rw [attr_foldl_add, hunder]
  rfl

/-- **Under every other type** the table is the same without it. -/
theorem attr_of_other (h : a.kind ≠ kind) :
    ((before ++ a :: after).foldl add t).attr kind = ((before ++ after).foldl add t).attr kind := by
  have hunder : under t.maxKind kind (before ++ a :: after) =
      under t.maxKind kind (before ++ after) := by
    rw [under, List.filter_append, List.filter_cons_of_neg (by simp [h]), ← List.filter_append,
      ← under]
  rw [attr_foldl_add, attr_foldl_add, hunder]

/-! ## Sequences without an error -/

theorem foldlM_ok :
    (attrs.map Except.ok).foldlM
        (fun (t : AttrTable) (item : Except WireError Attr) => item.map t.add) t =
      .ok (attrs.foldl add t) := by
  induction attrs generalizing t with
  | nil => rfl
  | cons a attrs ih =>
      rw [List.map_cons, List.foldlM_cons]
      exact ih (t.add a)

/-- **A sequence without an error is read** into the table that takes up its attributes. -/
theorem parseAt_of_scan {bytes : Bytes} {attrs : List Attr} {depth : Nat}
    (h : Attr.scan bytes = attrs.map .ok) (hdepth : depth ≤ maxDepth) (maxKind : UInt16) :
    parseAt depth bytes maxKind = .ok (attrs.foldl add { maxKind, depth }) := by
  rw [parseAt, if_neg (Nat.not_lt.mpr hdepth), h]
  exact foldlM_ok _ _

theorem parse_of_scan {bytes : Bytes} {attrs : List Attr} (h : Attr.scan bytes = attrs.map .ok)
    (maxKind : UInt16) :
    parse bytes maxKind = .ok (attrs.foldl add { maxKind, depth := 0 }) :=
  parseAt_of_scan h (Nat.zero_le _) maxKind

end AttrTable

end PacketLog
