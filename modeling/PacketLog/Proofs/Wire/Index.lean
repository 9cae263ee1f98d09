import Mathlib
import PacketLog.Proofs.Wire.Sequence
import PacketLog.Proofs.Wire.Table

set_option autoImplicit false

/-! # The table as an index of the scan

A table is read from the items of the scanner. It exists if and only if there is no error among
them, and it is then their index (`AttrTable.IndexOf`): under each indexed type it holds the last
attribute of that type, and it counts the others. The same holds of a table one level deeper
(`table_indexes_scan`). -/

namespace PacketLog

namespace Attr

/-- The last attribute of a type. -/
def lastOf (kind : UInt16) (attrs : List Attr) : Option Attr :=
  (attrs.filter fun a => a.kind = kind).getLast?

theorem mem_of_lastOf {kind : UInt16} {attrs : List Attr} {a : Attr}
    (h : lastOf kind attrs = some a) : a ∈ attrs ∧ a.kind = kind := by
  have hmem := List.mem_filter.mp (List.mem_of_getLast? h)
  exact ⟨hmem.1, of_decide_eq_true hmem.2⟩

theorem exists_lastOf_iff {kind : UInt16} {attrs : List Attr} :
    (∃ a, lastOf kind attrs = some a) ↔ kind ∈ attrs.map Attr.kind := by
  constructor
  · rintro ⟨a, h⟩
    obtain ⟨hmem, rfl⟩ := mem_of_lastOf h
    exact List.mem_map_of_mem hmem
  · intro h
    obtain ⟨a, hmem, hkind⟩ := List.mem_map.mp h
    have hne : attrs.filter (fun a => a.kind = kind) ≠ [] :=
      List.ne_nil_of_mem (List.mem_filter.mpr ⟨hmem, decide_eq_true hkind⟩)
    exact ⟨_, List.getLast?_eq_some_getLast hne⟩

/-- Where no type occurs twice, each attribute is the last one of its type. -/
theorem lastOf_eq_some_iff {kind : UInt16} {attrs : List Attr}
    (hdistinct : (attrs.map Attr.kind).Nodup) {a : Attr} :
    lastOf kind attrs = some a ↔ a ∈ attrs ∧ a.kind = kind := by
  constructor
  · exact mem_of_lastOf
  · rintro ⟨hmem, rfl⟩
    obtain ⟨b, hb⟩ := exists_lastOf_iff.mpr (List.mem_map_of_mem hmem)
    obtain ⟨hbmem, hkind⟩ := mem_of_lastOf hb
    rw [hb, List.inj_on_of_nodup_map hdistinct hbmem hmem hkind]

/-- **The scanner yields attributes**, and then at most one error. -/
theorem scan_cases (bytes : Bytes) :
    ∃ attrs : List Attr, scan bytes = attrs.map .ok ∨
      ∃ e, scan bytes = attrs.map .ok ++ [.error e] := by
  rcases scan_ok_or_fault bytes with ⟨attrs, h⟩ | ⟨cells, rest, e, -, -, -, -, -, h⟩
  · exact ⟨attrs, Or.inl h⟩
  · refine ⟨cells.map Cell.attr, Or.inr ⟨e, ?_⟩⟩
    rw [h, List.map_map]
    rfl

/-- The attributes that the scanner yields, up to the error if there is one. -/
def scanned (bytes : Bytes) : List Attr := (scan bytes).filterMap Except.toOption

theorem scanned_of_scan {bytes : Bytes} {attrs : List Attr} (h : scan bytes = attrs.map .ok) :
    scanned bytes = attrs := by
  rw [scanned, h, List.filterMap_map]
  exact List.filterMap_some

/-- What an attribute that is looked for says as a number of `width` bytes in network order. -/
def numberIn (kind : UInt16) (width : Nat) : Option Attr → Except WireError (Option Nat)
  | none => .ok none
  | some a =>
    if a.payload.length = width then .ok (some (Bytes.beValue a.payload))
    else .error (.typeMismatch kind width a.payload.length)

end Attr

namespace AttrTable

/-! ## One more attribute -/

section Add

variable (t : AttrTable) (attrs : List Attr) (a : Attr)

theorem depth_foldl_add : (attrs.foldl add t).depth = t.depth := by
  induction attrs generalizing t with
  | nil => rfl
  | cons a attrs ih =>
      have hadd : (t.add a).depth = t.depth := by
        rw [add]
        split_ifs <;> rfl
      rw [List.foldl_cons, ih, hadd]

/-- **What is not indexed is counted.** -/
theorem skipped_foldl_add :
    (attrs.foldl add t).skipped =
      t.skipped + attrs.countP fun a => ¬ Indexes t.maxKind a.kind := by
  induction attrs generalizing t with
  | nil => rfl
  | cons a attrs ih =>
      rw [List.foldl_cons, ih, maxKind_add, List.countP_cons]
      by_cases h : Indexes t.maxKind a.kind
      · have hadd : (t.add a).skipped = t.skipped := by rw [add, if_pos h]
        simp only [hadd, h, not_true_eq_false, decide_false, Bool.false_eq_true, if_false]
        omega
      · have hadd : (t.add a).skipped = t.skipped + 1 := by rw [add, if_neg h]
        simp only [hadd, h, not_false_eq_true, decide_true, if_true]
        omega

/-- A table that was filled from nothing holds the last attribute of each indexed type. -/
theorem attr_foldl_add_empty (maxKind : UInt16) (depth : Nat) (kind : UInt16) :
    (attrs.foldl add { maxKind, depth }).attr kind =
      if Indexes maxKind kind then Attr.lastOf kind attrs else none := by
  rw [attr_foldl_add, attr_empty, Option.or_none]
  by_cases h : Indexes maxKind kind
  · simp only [under, h, and_true, if_true]
    rfl
  · simp only [under, h, and_false, decide_false, List.filter_false, if_false]
    rfl

end Add

/-! ## The attributes in order -/

section InOrder

variable {t : AttrTable}

/-- Each attribute stands under its own type. -/
def Filed (t : AttrTable) : Prop := ∀ kind a, t.attr kind = some a → a.kind = kind

theorem toList_eq (t : AttrTable) : t.toList = t.slots.toList.map Prod.snd := by
  have hfoldr : t.toList = t.slots.foldr (fun _ a rest => a :: rest) [] := rfl
  rw [hfoldr, Std.TreeMap.foldr_eq_foldr_toList, List.map_eq_foldr]

theorem mem_slots_iff {kind : UInt16} {a : Attr} :
    (kind, a) ∈ t.slots.toList ↔ t.attr kind = some a :=
  Std.TreeMap.mem_toList_iff_getElem?_eq_some

theorem mem_toList_iff (h : t.Filed) {a : Attr} : a ∈ t.toList ↔ t.attr a.kind = some a := by
  rw [toList_eq, List.mem_map]
  constructor
  · rintro ⟨⟨kind, b⟩, hmem, rfl⟩
    have hattr := mem_slots_iff.mp hmem
    rw [h kind b hattr]
    exact hattr
  · exact fun hattr => ⟨(a.kind, a), mem_slots_iff.mpr hattr, rfl⟩

theorem map_kind_toList (h : t.Filed) : t.toList.map Attr.kind = t.slots.keys := by
  rw [toList_eq, List.map_map, ← Std.TreeMap.map_fst_toList_eq_keys]
  refine List.map_congr_left fun entry hmem => ?_
  exact h entry.1 entry.2 (mem_slots_iff.mp hmem)

theorem pairwise_keys (t : AttrTable) : t.slots.keys.Pairwise (· < ·) :=
  Std.TreeMap.ordered_keys.imp fun h => Std.compare_eq_lt.mp h

theorem pairwise_kind_toList (h : t.Filed) : t.toList.Pairwise fun a b => a.kind ≠ b.kind := by
  have hkeys := t.pairwise_keys
  rw [← map_kind_toList h, List.pairwise_map] at hkeys
  exact hkeys.imp UInt16.ne_of_lt

theorem mem_keys_iff {kind : UInt16} : kind ∈ t.slots.keys ↔ ∃ a, t.attr kind = some a := by
  rw [Std.TreeMap.mem_keys, Std.TreeMap.mem_iff_isSome_getElem?, Option.isSome_iff_exists]
  rfl

/-- The size is the number of the types that occur, if these are all that are found. -/
theorem size_eq_of_found {kinds : List UInt16}
    (h : ∀ kind, (∃ a, t.attr kind = some a) ↔ kind ∈ kinds) : t.size = kinds.dedup.length := by
  -- the keys and the types that occur are the same, and each stands there once
  have hnodup : t.slots.keys.Nodup := t.pairwise_keys.imp UInt16.ne_of_lt
  have hperm : t.slots.keys.Perm kinds.dedup :=
    (List.perm_ext_iff_of_nodup hnodup kinds.nodup_dedup).mpr fun kind => by
      rw [mem_keys_iff, h, List.mem_dedup]
  calc t.size = t.slots.keys.length := Std.TreeMap.length_keys.symm
    _ = kinds.dedup.length := hperm.length_eq

end InOrder

/-! ## Numbers -/

section Numbers

variable (t : AttrTable) (kind : UInt16)

theorem number_eq (width : Nat) : t.number kind width = Attr.numberIn kind width (t.attr kind) := by
  rw [number, exact, get]
  cases t.attr kind with
  | none => rfl
  | some a =>
      simp only [Option.map_some, Attr.numberIn]
      split <;> rfl

/-- A number that was found fits its width. -/
theorem lt_of_number {width n : Nat} (h : t.number kind width = .ok (some n)) :
    n < Bytes.capacity width := by
  rw [number_eq] at h
  cases hattr : t.attr kind with
  | none =>
      rw [hattr] at h
      cases h
  | some a =>
      rw [hattr, Attr.numberIn] at h
      split at h
      · rename_i hlen
        cases h
        rw [← hlen]
        exact Bytes.beValue_lt a.payload
      · cases h

/-- Narrowing a number that was found to its width loses nothing. -/
theorem narrowed_number {α : Type} {width : Nat} (ofNat : Nat → α) (toNat : α → Nat)
    (h : ∀ n, n < Bytes.capacity width → toNat (ofNat n) = n) :
    ((t.number kind width).map (·.map ofNat)).map (·.map toNat) =
      Attr.numberIn kind width (t.attr kind) := by
  rw [← number_eq]
  cases hnumber : t.number kind width with
  | error e => rfl
  | ok found =>
      cases found with
      | none => rfl
      | some n =>
          show Except.ok (some (toNat (ofNat n))) = _
          rw [h n (t.lt_of_number kind hnumber)]

end Numbers

/-! ## The index -/

/-- **The table is the index of a sequence of attributes.** -/
structure IndexOf (attrs : List Attr) (t : AttrTable) : Prop where
  /-- Under an indexed type there is the last attribute of this type. -/
  attr : ∀ kind, Indexes t.maxKind kind → t.attr kind = Attr.lastOf kind attrs
  /-- Under 0 and under every type above the greatest one there is nothing. -/
  outside : ∀ kind, ¬ Indexes t.maxKind kind → t.attr kind = none
  skipped : t.skipped = attrs.countP fun a => ¬ Indexes t.maxKind a.kind
  /-- The size is the number of distinct indexed types. -/
  size : t.size = ((attrs.map Attr.kind).filter fun kind => Indexes t.maxKind kind).dedup.length
  ascending : (t.toList.map Attr.kind).Pairwise (· < ·)
  mem_toList : ∀ a, a ∈ t.toList ↔ Indexes t.maxKind a.kind ∧ Attr.lastOf a.kind attrs = some a
  /-- A payload is a number if it has the width for it, and a mismatch of its own width if not. -/
  uint8 : ∀ kind, (t.uint8 kind).map (·.map UInt8.toNat) = Attr.numberIn kind 1 (t.attr kind)
  uint16 : ∀ kind, (t.uint16 kind).map (·.map UInt16.toNat) = Attr.numberIn kind 2 (t.attr kind)
  uint32 : ∀ kind, (t.uint32 kind).map (·.map UInt32.toNat) = Attr.numberIn kind 4 (t.attr kind)
  uint64 : ∀ kind, (t.uint64 kind).map (·.map UInt64.toNat) = Attr.numberIn kind 8 (t.attr kind)

/-- **Taking up attributes one by one** gives their index. -/
theorem indexOf_foldl_add (attrs : List Attr) (maxKind : UInt16) (depth : Nat) :
    IndexOf attrs (attrs.foldl add { maxKind, depth }) := by
  have hattr := attr_foldl_add_empty attrs maxKind depth
  have hmax : (attrs.foldl add { maxKind, depth }).maxKind = maxKind := maxKind_foldl_add _ _
  have hskipped := skipped_foldl_add { maxKind, depth } attrs
  generalize attrs.foldl add { maxKind, depth } = t at hattr hmax hskipped
  subst hmax
  have hfiled : t.Filed := by
    intro kind a h
    rw [hattr] at h
    split at h
    · exact (Attr.mem_of_lastOf h).2
    · cases h
  have hfound (kind : UInt16) : (∃ a, t.attr kind = some a) ↔
      kind ∈ (attrs.map Attr.kind).filter fun kind => Indexes t.maxKind kind := by
    rw [hattr, List.mem_filter, ← Attr.exists_lastOf_iff, decide_eq_true_iff]
    by_cases h : Indexes t.maxKind kind
    · simp only [h, if_true, and_true]
    · simp only [h, if_false, and_false, reduceCtorEq, exists_false]
  constructor
  case attr =>
    intro kind h
    rw [hattr, if_pos h]
  case outside =>
    intro kind h
    rw [hattr, if_neg h]
  case skipped =>
    rw [hskipped]
    exact Nat.zero_add _
  case size => exact size_eq_of_found hfound
  case ascending =>
    rw [map_kind_toList hfiled]
    exact t.pairwise_keys
  case mem_toList =>
    intro a
    rw [mem_toList_iff hfiled, hattr]
    by_cases h : Indexes t.maxKind a.kind
    · simp only [h, if_true, true_and]
    · simp only [h, if_false, false_and, reduceCtorEq]
  case uint8 =>
    exact fun kind =>
      t.narrowed_number kind UInt8.ofNat UInt8.toNat fun n hn => Nat.mod_eq_of_lt hn
  case uint16 =>
    exact fun kind =>
      t.narrowed_number kind UInt16.ofNat UInt16.toNat fun n hn => Nat.mod_eq_of_lt hn
  case uint32 =>
    exact fun kind =>
      t.narrowed_number kind UInt32.ofNat UInt32.toNat fun n hn => Nat.mod_eq_of_lt hn
  case uint64 =>
    exact fun kind =>
      t.narrowed_number kind UInt64.ofNat UInt64.toNat fun n hn => Nat.mod_eq_of_lt hn

/-! ## Reading -/

/-- **What reading a sequence has to give**: the error that the scanner yields, or the index of the
attributes that it yields. -/
structure Reads (bytes : Bytes) (maxKind : UInt16) (depth : Nat)
    (read : Except WireError AttrTable) : Prop where
  fails : ∀ e, read = .error e ↔ .error e ∈ Attr.scan bytes
  indexes : ∀ t, read = .ok t → t.maxKind = maxKind ∧ t.depth = depth ∧
    ∃ attrs : List Attr, Attr.scan bytes = attrs.map .ok ∧ IndexOf attrs t

variable {bytes : Bytes} {attrs : List Attr} {depth : Nat}

/-- **A sequence with an error** is not read. -/
theorem parseAt_of_error {e : WireError} (h : Attr.scan bytes = attrs.map .ok ++ [.error e])
    (hdepth : depth ≤ maxDepth) (maxKind : UInt16) : parseAt depth bytes maxKind = .error e := by
  rw [parseAt, if_neg (Nat.not_lt.mpr hdepth), h, List.foldlM_append, foldlM_ok]
  rfl

/-- **Reading is scanning**, at every level down to the deepest. -/
theorem reads_parseAt (bytes : Bytes) (maxKind : UInt16) (hdepth : depth ≤ maxDepth) :
    Reads bytes maxKind depth (parseAt depth bytes maxKind) := by
  obtain ⟨attrs, h | ⟨e, h⟩⟩ := Attr.scan_cases bytes
  · rw [parseAt_of_scan h hdepth]
    constructor
    case fails => simp [h]
    case indexes =>
      intro t ht
      cases ht
      exact ⟨maxKind_foldl_add _ _, depth_foldl_add _ _, attrs, h,
        indexOf_foldl_add attrs maxKind depth⟩
  · rw [parseAt_of_error h hdepth]
    constructor
    case fails => simp [h, eq_comm]
    case indexes => simp

end AttrTable

/-- **A table agrees with the scan.** Reading a sequence fails if and only if the scanner yields an
error, and with that error. Otherwise the table is the index of what the scanner yields: it finds
the last attribute of each type from 1 to the greatest one, lists these in ascending order, and
counts the rest. A payload is read as a number if it has exactly the width for it. The same holds of
a table one level deeper, down to the deepest level. -/
theorem table_indexes_scan (bytes : Bytes) (maxKind : UInt16) :
    AttrTable.Reads bytes maxKind 0 (AttrTable.parse bytes maxKind) ∧
    ∀ (t : AttrTable) (kind innerMax : UInt16), t.depth < AttrTable.maxDepth →
      (t.get kind = none → t.nested kind innerMax = .ok none) ∧
      ∀ inner, t.get kind = some inner → ∃ read, t.nested kind innerMax = read.map some ∧
        AttrTable.Reads inner innerMax (t.depth + 1) read := by
  refine ⟨AttrTable.reads_parseAt bytes maxKind (Nat.zero_le _), ?_⟩
  intro t kind innerMax hdepth
  constructor
  · intro hget
    rw [AttrTable.nested, hget]
  · intro inner hget
    refine ⟨AttrTable.parseAt (t.depth + 1) inner innerMax, ?_,
      AttrTable.reads_parseAt inner innerMax hdepth⟩
    rw [AttrTable.nested, hget]

end PacketLog
