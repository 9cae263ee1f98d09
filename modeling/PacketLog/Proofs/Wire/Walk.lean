import Mathlib
import PacketLog.Proofs.Wire.Forest
import PacketLog.Proofs.Wire.Nesting

set_option autoImplicit false

/-! # Walking through a written forest

`AttrTable.walk` reads every table that can be reached from one, and lists what is in them by the
types that lead to it. Of a forest that was written it finds each tree down to the deepest table, as
it was written; whatever else it finds was read from the payload of a leaf (`AttrTree.Recovered`).
Together with what is said of steps down and of walks in general this is `nesting_is_bounded`. -/

namespace PacketLog

namespace AttrTable

/-! ## The walk -/

/-- **What a walk finds**: every attribute of a table under the type that it has, and behind this
type what is found in the table below it, if there is one. The table to which a path of types leads
is read up to the type `limit path`. -/
def walk (t : AttrTable) (limit : List UInt16 → UInt16) : List (List UInt16 × Attr) :=
  t.toList.flatMap fun a =>
    ([a.kind], a) ::
      match _ : t.nested a.kind (limit [a.kind]) with
      | .ok (some inner) =>
        (inner.walk fun path => limit (a.kind :: path)).map fun (path, b) => (a.kind :: path, b)
      | _ => []
termination_by maxDepth - t.depth
decreasing_by
  have hdepth := depth_of_nested (by assumption)
  omega

variable {t inner : AttrTable} {limit : List UInt16 → UInt16} {path : List UInt16} {a b : Attr}
  {bytes buffer : Bytes} {maxKind : UInt16} {depth n : Nat}

/-- What a walk finds in the table below an attribute. -/
def walkBelow (t : AttrTable) (limit : List UInt16 → UInt16) (a : Attr) :
    List (List UInt16 × Attr) :=
  match t.nested a.kind (limit [a.kind]) with
  | .ok (some inner) =>
    (inner.walk fun path => limit (a.kind :: path)).map fun (path, b) => (a.kind :: path, b)
  | _ => []

theorem walk_eq (t : AttrTable) (limit : List UInt16 → UInt16) :
    t.walk limit = t.toList.flatMap fun a => ([a.kind], a) :: t.walkBelow limit a := by
  rw [walk]
  congr 1
  funext a
  rw [walkBelow]
  split <;> simp_all

theorem mem_walkBelow_iff :
    (path, b) ∈ t.walkBelow limit a ↔
      ∃ inner rest, t.nested a.kind (limit [a.kind]) = .ok (some inner) ∧ path = a.kind :: rest ∧
        (rest, b) ∈ inner.walk fun path => limit (a.kind :: path) := by
  rw [walkBelow]
  split
  · rename_i inner h
    simp [h, eq_comm, and_comm]
  · rename_i h
    simp_all

theorem mem_walk_iff :
    (path, b) ∈ t.walk limit ↔
      ∃ a ∈ t.toList, (path, b) = ([a.kind], a) ∨ (path, b) ∈ t.walkBelow limit a := by
  simp only [walk_eq, List.mem_flatMap, List.mem_cons]

/-- Every path has a type to begin with. -/
theorem exists_cons_of_mem_walk (h : (path, b) ∈ t.walk limit) :
    ∃ a ∈ t.toList, ∃ rest, path = a.kind :: rest := by
  obtain ⟨a, ha, heq | hbelow⟩ := mem_walk_iff.mp h
  · cases heq
    exact ⟨b, ha, [], rfl⟩
  · obtain ⟨inner, rest, -, rfl, -⟩ := mem_walkBelow_iff.mp hbelow
    exact ⟨a, ha, rest, rfl⟩

/-- What is read from a sequence files each attribute under its type. -/
theorem filed_of_parseAt (h : parseAt depth bytes maxKind = .ok t) : t.Filed := by
  obtain ⟨-, hdepth⟩ := depth_of_parseAt h
  obtain ⟨-, -, attrs, -, hindex⟩ := (reads_parseAt bytes maxKind hdepth).indexes t h
  intro kind a hattr
  by_cases hindexed : Indexes t.maxKind kind
  · rw [hindex.attr kind hindexed] at hattr
    exact (Attr.mem_of_lastOf hattr).2
  · rw [hindex.outside kind hindexed] at hattr
    cases hattr

theorem filed_of_nested {kind : UInt16} (h : t.nested kind maxKind = .ok (some inner)) :
    inner.Filed := by
  obtain ⟨payload, -, hparse⟩ := parseAt_of_nested h
  exact filed_of_parseAt hparse

/-- **What a walk finds stands in a table that is reached**, by a step for each type of its path but
the last. -/
theorem exists_reached_of_mem_walk (hreached : Reached bytes n buffer t) (hfiled : t.Filed)
    (h : (path, b) ∈ t.walk limit) :
    ∃ m buffer' inner, m + 1 = n + path.length ∧ Reached bytes m buffer' inner ∧
      inner.attr b.kind = some b := by
  induction path generalizing t n buffer limit with
  | nil =>
      obtain ⟨a, -, rest, hpath⟩ := exists_cons_of_mem_walk h
      cases hpath
  | cons kind path ih =>
      obtain ⟨a, ha, heq | hbelow⟩ := mem_walk_iff.mp h
      · cases heq
        exact ⟨n, buffer, t, rfl, hreached, (mem_toList_iff hfiled).mp ha⟩
      · obtain ⟨inner, rest, hnested, hpath, hrest⟩ := mem_walkBelow_iff.mp hbelow
        cases hpath
        obtain ⟨payload, hget, hparse⟩ := parseAt_of_nested hnested
        obtain ⟨m, buffer', found, hm, hfound⟩ :=
          ih (hreached.down hget hnested) (filed_of_parseAt hparse) hrest
        exact ⟨m, buffer', found, by rw [List.length_cons]; omega, hfound⟩

/-! ### Nothing twice -/

/-- What is found of an attribute and below it is found behind its type. -/
theorem head?_of_mem_found (h : path ∈ (([a.kind], a) :: t.walkBelow limit a).map Prod.fst) :
    path.head? = some a.kind := by
  obtain ⟨⟨_, b⟩, hmem, rfl⟩ := List.mem_map.mp h
  rcases List.mem_cons.mp hmem with heq | hbelow
  · cases heq
    rfl
  · obtain ⟨inner, rest, -, rfl, -⟩ := mem_walkBelow_iff.mp hbelow
    rfl

/-- Below an attribute more than its own type leads to what is found. -/
theorem singleton_not_mem_walkBelow : [a.kind] ∉ (t.walkBelow limit a).map Prod.fst := by
  intro h
  obtain ⟨⟨_, b⟩, hbelow, rfl⟩ := List.mem_map.mp h
  obtain ⟨inner, rest, -, hpath, hrest⟩ := mem_walkBelow_iff.mp hbelow
  obtain ⟨c, -, later, rfl⟩ := exists_cons_of_mem_walk hrest
  cases hpath

theorem nodup_walkBelow
    (h : ∀ inner, t.nested a.kind (limit [a.kind]) = .ok (some inner) →
      ((inner.walk fun path => limit (a.kind :: path)).map Prod.fst).Nodup) :
    ((t.walkBelow limit a).map Prod.fst).Nodup := by
  rw [walkBelow]
  split
  · rename_i inner hnested
    have hcons := (h inner hnested).map (List.cons_injective (a := a.kind))
    rw [List.map_map] at hcons ⊢
    exact hcons
  · exact List.nodup_nil

/-- **A walk finds nothing twice.** -/
theorem nodup_walk (h : t.Filed) (limit : List UInt16 → UInt16) :
    ((t.walk limit).map Prod.fst).Nodup := by
  induction t, limit using walk.induct with
  | case1 t limit ih =>
      rw [walk_eq, List.map_flatMap, List.nodup_flatMap]
      constructor
      · intro a ha
        rw [List.map_cons, List.nodup_cons]
        refine ⟨singleton_not_mem_walkBelow, nodup_walkBelow ?_⟩
        exact fun inner hnested => ih a inner hnested (filed_of_nested hnested)
      · refine (pairwise_kind_toList h).imp fun {a b} hne => ?_
        intro path ha hb
        have heq := (head?_of_mem_found ha).symm.trans (head?_of_mem_found hb)
        exact hne (Option.some.inj heq)

end AttrTable

/-! ## Forests -/

namespace AttrTree

/-- The type of a tree, without the two flags. -/
def kind : AttrTree → UInt16
  | leaf word _ => word &&& Attr.kindMask
  | nest word _ => word &&& Attr.kindMask

/-- **A tree of a forest** at the place to which the types of the nests around it, from the outside
to the inside, and its own type lead. -/
inductive At : List AttrTree → List UInt16 → AttrTree → Prop
  | here {forest : List AttrTree} {t : AttrTree} (h : t ∈ forest) : At forest [t.kind] t
  | inside {forest : List AttrTree} {word : UInt16} {children : List AttrTree}
      {path : List UInt16} {t : AttrTree} (h : nest word children ∈ forest)
      (below : At children path t) : At forest ((nest word children).kind :: path) t

/-- **The types of a forest tell its trees apart**: siblings have distinct types, all of which are
indexed, where the table to which a path of types leads is read up to the type `limit path`. -/
inductive Indexed : (List UInt16 → UInt16) → List AttrTree → Prop
  | intro {limit : List UInt16 → UInt16} {forest : List AttrTree}
      (distinct : (forest.map kind).Nodup)
      (indexed : ∀ t ∈ forest, AttrTable.Indexes (limit []) t.kind)
      (inside : ∀ word children, nest word children ∈ forest →
        Indexed (fun path => limit ((nest word children).kind :: path)) children) :
      Indexed limit forest

variable {limit : List UInt16 → UInt16} {forest children : List AttrTree} {t : AttrTree} {a : Attr}
  {word maxKind : UInt16} {path : List UInt16} {depth : Nat}

/-- The flag of a nest is no part of its type. -/
theorem kind_attr (t : AttrTree) : t.attr.kind = t.kind := by
  cases t with
  | leaf word payload =>
      rw [attr]
      rfl
  | nest word children =>
      apply UInt16.toNat_inj.mp
      rw [attr, Attr.toNat_kind_nest]
      exact (Attr.toNat_kind { word, payload := [] }).symm

theorem At.fits (h : At forest path t) (hfits : ∀ t ∈ forest, t.Fits) : t.Fits := by
  induction h with
  | here h => exact hfits _ h
  | inside h below ih => exact ih (hfits _ h).children

theorem At.length_pos (h : At forest path t) : 0 < path.length := by
  cases h <;> exact Nat.succ_pos _

/-! ### The table of a forest -/

/-- The table that takes up the attributes of a forest. -/
def table (maxKind : UInt16) (depth : Nat) (forest : List AttrTree) : AttrTable :=
  (forest.map attr).foldl AttrTable.add { maxKind, depth }

theorem depth_table (maxKind : UInt16) (depth : Nat) (forest : List AttrTree) :
    (table maxKind depth forest).depth = depth :=
  AttrTable.depth_foldl_add _ _

/-- **The table of a forest is read from its bytes.** -/
theorem parseAt_encodeForest (hfits : ∀ t ∈ forest, t.Fits) (hdepth : depth ≤ AttrTable.maxDepth)
    (maxKind : UInt16) :
    AttrTable.parseAt depth (encodeForest forest) maxKind = .ok (table maxKind depth forest) :=
  AttrTable.parseAt_of_scan (scan_encodeForest hfits) hdepth maxKind

section Table

variable (distinct : (forest.map kind).Nodup)
  (indexed : ∀ t ∈ forest, AttrTable.Indexes maxKind t.kind)

include distinct indexed

omit indexed in
theorem lastOf_map_attr (ht : t ∈ forest) : Attr.lastOf t.kind (forest.map attr) = some t.attr := by
  have hkinds : ((forest.map attr).map Attr.kind).Nodup := by
    rw [List.map_map]
    simpa only [Function.comp_def, kind_attr] using distinct
  exact (Attr.lastOf_eq_some_iff hkinds).mpr ⟨List.mem_map_of_mem ht, kind_attr t⟩

/-- Under the type of a tree there is its payload. -/
theorem get_table (ht : t ∈ forest) (depth : Nat) :
    (table maxKind depth forest).get t.kind = some t.attr.payload := by
  rw [AttrTable.get, table, AttrTable.attr_foldl_add_empty, if_pos (indexed t ht),
    lastOf_map_attr distinct ht, Option.map_some]

/-- **The table of a forest lists its trees**, and nothing else. -/
theorem mem_toList_table (depth : Nat) :
    a ∈ (table maxKind depth forest).toList ↔ ∃ t ∈ forest, a = t.attr := by
  have hindex := AttrTable.indexOf_foldl_add (forest.map attr) maxKind depth
  rw [table, hindex.mem_toList, AttrTable.maxKind_foldl_add]
  constructor
  · rintro ⟨-, hlast⟩
    obtain ⟨t, ht, rfl⟩ := List.mem_map.mp (Attr.mem_of_lastOf hlast).1
    exact ⟨t, ht, rfl⟩
  · rintro ⟨t, ht, rfl⟩
    rw [kind_attr]
    exact ⟨indexed t ht, lastOf_map_attr distinct ht⟩

/-- **Below a nest there is the table of its children**, above the deepest level. -/
theorem nested_table (ht : nest word children ∈ forest) (hfits : ∀ t ∈ children, t.Fits)
    (hdepth : depth < AttrTable.maxDepth) (innerMax : UInt16) :
    (table maxKind depth forest).nested (nest word children).kind innerMax =
      .ok (some (table innerMax (depth + 1) children)) := by
  have hget := get_table distinct indexed ht depth
  rw [attr] at hget
  rw [AttrTable.nested_of_present hget, depth_table, parseAt_encodeForest hfits hdepth]
  rfl

end Table

/-! ### The walk through a forest -/

/-- **Every tree is found** that stands in a table down to the deepest one. -/
theorem At.mem_walk (hat : At forest path t) (hfits : ∀ t ∈ forest, t.Fits)
    (hindexed : Indexed limit forest) (hlen : depth + path.length ≤ AttrTable.maxDepth + 1) :
    (path, t.attr) ∈ (table (limit []) depth forest).walk limit := by
  induction hat generalizing limit depth with
  | here ht =>
      obtain ⟨distinct, indexed, inside⟩ := hindexed
      have hmem := (mem_toList_table distinct indexed depth).mpr ⟨_, ht, rfl⟩
      exact AttrTable.mem_walk_iff.mpr ⟨_, hmem, Or.inl (by rw [kind_attr])⟩
  | @inside forest word children path t ht below ih =>
      obtain ⟨distinct, indexed, inside⟩ := hindexed
      have hchildren := (hfits _ ht).children
      -- the table below is not too deep, because there is at least one type left
      have hpos := below.length_pos
      rw [List.length_cons] at hlen
      have hmem := (mem_toList_table distinct indexed depth).mpr ⟨_, ht, rfl⟩
      refine AttrTable.mem_walk_iff.mpr ⟨_, hmem, Or.inr ?_⟩
      rw [AttrTable.mem_walkBelow_iff, kind_attr]
      exact ⟨_, path, nested_table distinct indexed ht hchildren (by omega) _, rfl,
        ih hchildren (inside word children ht) (by omega)⟩

/-- A path goes on behind a leaf of the forest. -/
def PastLeaf (forest : List AttrTree) (path : List UInt16) : Prop :=
  ∃ above word payload, At forest above (leaf word payload) ∧ above <+: path ∧ above ≠ path

theorem PastLeaf.inside (ht : nest word children ∈ forest) (h : PastLeaf children path) :
    PastLeaf forest ((nest word children).kind :: path) := by
  obtain ⟨above, w, payload, hat, hprefix, hne⟩ := h
  refine ⟨_, w, payload, hat.inside ht, List.cons_prefix_cons.mpr ⟨rfl, hprefix⟩, ?_⟩
  exact fun heq => hne (List.cons.inj heq).2

/-- **Nothing but trees is found**, except behind a leaf. -/
theorem at_of_mem_walk (hfits : ∀ t ∈ forest, t.Fits) (hindexed : Indexed limit forest)
    (h : (path, a) ∈ (table (limit []) depth forest).walk limit) :
    (∃ t, At forest path t ∧ a = t.attr) ∨ PastLeaf forest path := by
  induction path generalizing forest limit depth with
  | nil =>
      obtain ⟨b, -, rest, hpath⟩ := AttrTable.exists_cons_of_mem_walk h
      cases hpath
  | cons kind path ih =>
      obtain ⟨distinct, indexed, inside⟩ := hindexed
      obtain ⟨b, hb, heq | hbelow⟩ := AttrTable.mem_walk_iff.mp h
      · cases heq
        obtain ⟨t, ht, rfl⟩ := (mem_toList_table distinct indexed depth).mp hb
        rw [kind_attr]
        exact Or.inl ⟨t, .here ht, rfl⟩
      · obtain ⟨t, ht, rfl⟩ := (mem_toList_table distinct indexed depth).mp hb
        rw [AttrTable.mem_walkBelow_iff, kind_attr] at hbelow
        obtain ⟨inner, rest, hnested, hpath, hrest⟩ := hbelow
        cases hpath
        cases t with
        | leaf word payload =>
            obtain ⟨c, -, later, rfl⟩ := AttrTable.exists_cons_of_mem_walk hrest
            exact Or.inr ⟨_, word, payload, .here ht, ⟨_, rfl⟩, by simp⟩
        | nest word children =>
            have hchildren := (hfits _ ht).children
            have hdepth := (AttrTable.depth_of_nested hnested).2
            rw [depth_table] at hdepth
            rw [nested_table distinct indexed ht hchildren hdepth] at hnested
            cases hnested
            rcases ih hchildren (inside word children ht) hrest with ⟨t, hat, rfl⟩ | hpast
            · exact Or.inl ⟨t, .inside ht hat, rfl⟩
            · exact Or.inr (hpast.inside ht)

/-- **What a walk through the bytes of a forest has to find.** -/
structure Recovered (forest : List AttrTree) (bytes : Bytes) (found : List (List UInt16 × Attr)) :
    Prop where
  /-- Every tree down to the deepest table is found, as it was written. A tree at a path stands in a
  table whose depth is the number of the nests around it. -/
  finds : ∀ path t, At forest path t → path.length ≤ AttrTable.maxDepth + 1 →
    ∃ a, (path, a) ∈ found ∧ ReadAs a t
  /-- Nothing is found twice. -/
  once : (found.map Prod.fst).Nodup
  /-- What is found stands in a table that steps down lead to, one for each type but the last. -/
  stands : ∀ path a, (path, a) ∈ found → ∃ n buffer t, path.length = n + 1 ∧
    AttrTable.Reached bytes n buffer t ∧ t.attr a.kind = some a
  /-- Nothing else is found, except behind a leaf. -/
  only : ∀ path a, (path, a) ∈ found → (∃ t, At forest path t ∧ ReadAs a t) ∨ PastLeaf forest path

/-- **A walk recovers a forest** that fits and whose types tell its trees apart. -/
theorem recovered_walk (hfits : ∀ t ∈ forest, t.Fits) (hindexed : Indexed limit forest) :
    Recovered forest (encodeForest forest) ((table (limit []) 0 forest).walk limit) := by
  have hparse := parseAt_encodeForest hfits (Nat.zero_le _) (limit [])
  constructor
  case finds =>
    intro path t hat hlen
    exact ⟨t.attr, hat.mem_walk hfits hindexed (by omega), readAs_attr (hat.fits hfits)⟩
  case once => exact AttrTable.nodup_walk (AttrTable.filed_of_parseAt hparse) limit
  case stands =>
    intro path a hmem
    obtain ⟨n, buffer, t, hlen, hreached, hattr⟩ :=
      AttrTable.exists_reached_of_mem_walk (.top hparse) (AttrTable.filed_of_parseAt hparse) hmem
    exact ⟨n, buffer, t, by omega, hreached, hattr⟩
  case only =>
    intro path a hmem
    refine (at_of_mem_walk hfits hindexed hmem).imp_left ?_
    rintro ⟨t, hat, rfl⟩
    exact ⟨t, hat, readAs_attr (hat.fits hfits)⟩

/-! ### Levels one in the other -/

/-- `n` levels, each of which is a nest that holds the next one, and beside it a leaf whose payload is
no sequence. -/
def levels : Nat → List AttrTree
  | 0 => []
  | n + 1 => [.nest 1 (levels n), .leaf 2 [7]]

theorem length_encodeForest_levels (n : Nat) : (encodeForest (levels n)).length = 12 * n := by
  induction n with
  | zero => rfl
  | succ n ih =>
      have hnest := size_nest 1 (levels n)
      have hleaf := size_eq (leaf 2 [7])
      rw [size_eq, ih] at hnest
      simp only [levels, encodeForest, List.length_append, List.length_nil, hnest, ← hleaf, size,
        align, Attr.headerSize, List.length_cons]
      omega

theorem fits_levels {n : Nat} (h : 12 * n ≤ 65535) : ∀ t ∈ levels n, t.Fits := by
  induction n with
  | zero => exact List.forall_mem_nil _
  | succ n ih =>
      have hsize : (nest 1 (levels n)).size ≤ 65535 := by
        rw [size_nest, length_encodeForest_levels, Attr.headerSize]
        omega
      exact List.forall_mem_cons.mpr ⟨.nest (ih (by omega)) hsize,
        List.forall_mem_singleton.mpr (.leaf (by decide))⟩

/-- The two types of a level. -/
theorem kinds_levels (n : Nat) : (levels (n + 1)).map kind = [1, 2] := by
  show [1 &&& Attr.kindMask, 2 &&& Attr.kindMask] = [1, 2]
  decide

theorem indexed_levels (n : Nat) : Indexed (fun _ => 2) (levels n) := by
  induction n with
  | zero => exact ⟨List.nodup_nil, List.forall_mem_nil _, fun _ _ h => nomatch h⟩
  | succ n ih =>
      refine ⟨?_, ?_, ?_⟩
      · rw [kinds_levels]
        decide
      · intro t ht
        have hkind := List.mem_map_of_mem (f := kind) ht
        rw [kinds_levels] at hkind
        rcases List.mem_pair.mp hkind with h | h
        · rw [h]
          decide
        · rw [h]
          decide
      · intro word children hmem
        rcases List.mem_pair.mp hmem with h | h
        · cases h
          exact ih
        · cases h

/-- In the table of a level both of its types are present. -/
theorem exists_get_levels {type : UInt16} (h : type ∈ [(1 : UInt16), 2]) (n depth : Nat) :
    ∃ payload, (table 2 depth (levels (n + 1))).get type = some payload := by
  obtain ⟨distinct, indexed, -⟩ := indexed_levels (n + 1)
  rw [← kinds_levels n] at h
  obtain ⟨t, ht, rfl⟩ := List.mem_map.mp h
  exact ⟨_, get_table distinct indexed ht depth⟩

/-- **Each step reaches the next level**, down to the deepest table. -/
theorem reached_levels {k n : Nat} (hk : k ≤ AttrTable.maxDepth) (hfits : 12 * (k + n) ≤ 65535) :
    AttrTable.Reached (encodeForest (levels (k + n))) k (encodeForest (levels n))
      (table 2 k (levels n)) := by
  induction k generalizing n with
  | zero =>
      rw [Nat.zero_add] at hfits ⊢
      exact .top (parseAt_encodeForest (fits_levels hfits) (Nat.zero_le _) 2)
  | succ k ih =>
      rw [Nat.add_right_comm, Nat.add_assoc] at hfits ⊢
      have habove := ih (n := n + 1) (by omega) hfits
      have hmem : nest 1 (levels n) ∈ levels (n + 1) := List.mem_cons_self
      obtain ⟨distinct, indexed, -⟩ := indexed_levels (n + 1)
      have hget := get_table distinct indexed hmem k
      rw [attr] at hget
      exact habove.down hget
        (nested_table distinct indexed hmem (fits_levels (by omega)) (by omega) 2)

end AttrTree

/-- **Nesting is bounded.** The depth of a table that is reached is the number of steps down to it,
which is never more than `AttrTable.maxDepth`. A step reads a span of the bytes of its table, at
least four bytes shorter than these; at the deepest level it is refused for every type that is
present, whatever the payload is, and gives nothing for an absent one. So every walk comes to an
end. A walk through a forest that was written, with types that are indexed and tell siblings apart,
finds every tree down to the deepest table as it was written. -/
theorem nesting_is_bounded :
    (∀ bytes n buffer t, AttrTable.Reached bytes n buffer t →
      t.depth = n ∧ n ≤ AttrTable.maxDepth ∧ AttrTable.StepsDown n buffer t) ∧
    (WellFounded fun after before => AttrTable.Round before after) ∧
    ∀ (w w' : AttrWriter) (forest : List AttrTree) (limit : List UInt16 → UInt16),
      w.bytes.length % 4 = 0 → w.writeForest forest = .ok w' → AttrTree.Indexed limit forest →
      ∃ appended t, w'.bytes = w.bytes ++ appended ∧
        AttrTable.parse appended (limit []) = .ok t ∧
        AttrTree.Recovered forest appended (t.walk limit) := by
  refine ⟨?_, AttrTable.wellFounded_round, ?_⟩
  · intro bytes n buffer t hreached
    obtain ⟨maxKind, hparse⟩ := hreached.exists_parseAt
    obtain ⟨hdepth, hle⟩ := AttrTable.depth_of_parseAt hparse
    exact ⟨hdepth, hle, AttrTable.stepsDown_of_parseAt hparse⟩
  · intro w w' forest limit hw hwritten hindexed
    have hfits := (AttrWriter.writeForest_ok_iff hw).mp ⟨w', hwritten⟩
    rw [AttrWriter.writeForest_of_fits hfits hw] at hwritten
    cases hwritten
    exact ⟨AttrTree.encodeForest forest, AttrTree.table (limit []) 0 forest, rfl,
      AttrTree.parseAt_encodeForest hfits (Nat.zero_le _) (limit []),
      AttrTree.recovered_walk hfits hindexed⟩

/-- Of six levels a walk finds the first five, the leaf in the fifth one included, and nothing of the
sixth. In the fifth one it is too deep for the nest and also for the leaf, whose payload would be no
sequence. -/
theorem six_levels_are_cut_off :
    let forest := AttrTree.levels 6
    let limit := fun _ : List UInt16 => (2 : UInt16)
    ({} : AttrWriter).bytes.length % 4 = 0 ∧ AttrTree.Indexed limit forest ∧
      ∃ (w' : AttrWriter) (t : AttrTable), ({} : AttrWriter).writeForest forest = .ok w' ∧
        AttrTable.parse w'.bytes 2 = .ok t ∧
        AttrTree.Recovered forest w'.bytes (t.walk limit) ∧
        (∃ a, ([1, 1, 1, 1, 2], a) ∈ t.walk limit ∧ AttrTree.ReadAs a (.leaf 2 [7])) ∧
        (∀ a, ([1, 1, 1, 1, 1, 2], a) ∉ t.walk limit) ∧
        ∃ buffer deepest, AttrTable.Reached w'.bytes 4 buffer deepest ∧ deepest.depth = 4 ∧
          deepest.nested 1 2 = .error (.nestingTooDeep 4) ∧
          deepest.nested 2 2 = .error (.nestingTooDeep 4) ∧ deepest.nested 3 2 = .ok none := by
  intro forest limit
  obtain ⟨hbound, -, hrecover⟩ := nesting_is_bounded
  have haligned : ({} : AttrWriter).bytes.length % 4 = 0 := rfl
  have hindexed : AttrTree.Indexed limit forest := AttrTree.indexed_levels 6
  have hfits : ∀ t ∈ forest, t.Fits := AttrTree.fits_levels (by decide)
  have hwritten := AttrWriter.writeForest_of_fits hfits haligned
  obtain ⟨appended, t, happended, hparse, hrecovered⟩ :=
    hrecover {} _ forest limit haligned hwritten hindexed
  obtain rfl : AttrTree.encodeForest forest = appended := happended
  have hleaf : AttrTree.At forest [1, 1, 1, 1, 2] (.leaf 2 [7]) :=
    .inside List.mem_cons_self (.inside List.mem_cons_self (.inside List.mem_cons_self
      (.inside List.mem_cons_self (.here (List.mem_cons_of_mem _ List.mem_cons_self)))))
  have hsixth (a : Attr) : ([1, 1, 1, 1, 1, 2], a) ∉ t.walk limit := by
    intro hmem
    obtain ⟨n, buffer, inner, hlen, hreached, -⟩ := hrecovered.stands _ a hmem
    obtain ⟨-, hle, -⟩ := hbound _ _ _ _ hreached
    simp only [List.length_cons, List.length_nil, AttrTable.maxDepth] at hlen hle
    omega
  have hreached := AttrTree.reached_levels (k := 4) (n := 2) (by decide) (by decide)
  obtain ⟨hdepth, -, hsteps⟩ := hbound _ _ _ _ hreached
  have htooDeep (type : UInt16) (h : type ∈ [(1 : UInt16), 2]) :
      (AttrTree.table 2 4 (AttrTree.levels 2)).nested type 2 = .error (.nestingTooDeep 4) :=
    (hsteps.tooDeep type 2 4).mpr ⟨rfl, rfl, AttrTree.exists_get_levels h 1 4⟩
  have habsent : (AttrTree.table 2 4 (AttrTree.levels 2)).get 3 = none := by
    have hindex := AttrTable.indexOf_foldl_add ((AttrTree.levels 2).map AttrTree.attr) 2 4
    rw [AttrTable.get, AttrTree.table,
      hindex.outside 3 (by rw [AttrTable.maxKind_foldl_add]; decide)]
    rfl
  exact ⟨haligned, hindexed, _, t, hwritten, hparse, hrecovered,
    hrecovered.finds _ _ hleaf (by decide), hsixth, _, _, hreached, hdepth,
    htooDeep 1 (by decide), htooDeep 2 (by decide), hsteps.absent 3 2 habsent⟩

end PacketLog
