import Mathlib
import PacketLog.Proofs.Wire.Index

set_option autoImplicit false

/-! # Tables below tables

A table that `n` steps down lead to (`AttrTable.Reached`) has depth `n`, which is at most
`AttrTable.maxDepth`. What a further step does depends on that number only where it is the deepest
one: there every type that is present is refused (`AttrTable.StepsDown`). So a walk that goes down
from tables to tables below them comes to an end, in whatever order it does so
(`AttrTable.wellFounded_round`). -/

namespace PacketLog

namespace Attr

/-- The scanner never complains about the depth. -/
theorem nestingTooDeep_not_mem_scan (bytes : Bytes) (max : Nat) :
    .error (.nestingTooDeep max) ∉ scan bytes := by
  intro hmem
  rcases scan_ok_or_fault bytes with ⟨attrs, h⟩ | ⟨cells, rest, e, -, -, -, -, hfault, h⟩
  · simp [h] at hmem
  · have he : e = .nestingTooDeep max := by simpa [h, eq_comm] using hmem
    subst he
    cases hfault

/-- **Each attribute of a sequence stands in it**, behind a header of its own. -/
theorem exists_standsAt_of_mem {bytes : Bytes} {attrs : List Attr} {a : Attr}
    (h : scan bytes = attrs.map .ok) (ha : a ∈ attrs) :
    ∃ (c : Cell) (start : Nat), c.attr = a ∧ c.StandsAt start bytes := by
  obtain ⟨cells, -, rfl, rfl⟩ := scan_eq_map_ok_iff.mp h
  obtain ⟨c, hc, rfl⟩ := List.mem_map.mp ha
  obtain ⟨before, later, rfl⟩ := List.append_of_mem hc
  exact ⟨c, (joined before).length, rfl, standsAt_of_prefix (List.prefix_refl _)⟩

end Attr

namespace AttrTable

variable {bytes buffer payload : Bytes} {t inner : AttrTable} {depth n : Nat}
  {kind maxKind : UInt16}

/-! ## One step down -/

theorem nested_of_absent (h : t.get kind = none) (maxKind : UInt16) :
    t.nested kind maxKind = .ok none := by
  rw [nested, h]

theorem nested_of_present (h : t.get kind = some payload) (maxKind : UInt16) :
    t.nested kind maxKind = (parseAt (t.depth + 1) payload maxKind).map some := by
  rw [nested, h]

theorem parseAt_of_tooDeep (h : maxDepth < depth) (bytes : Bytes) (maxKind : UInt16) :
    parseAt depth bytes maxKind = .error (.nestingTooDeep maxDepth) := by
  rw [parseAt, if_pos h]

/-- A table stands at the depth that it was read for, which is not too deep. -/
theorem depth_of_parseAt (h : parseAt depth bytes maxKind = .ok t) :
    t.depth = depth ∧ depth ≤ maxDepth := by
  by_cases hdepth : depth ≤ maxDepth
  · exact ⟨((reads_parseAt bytes maxKind hdepth).indexes t h).2.1, hdepth⟩
  · rw [parseAt_of_tooDeep (Nat.lt_of_not_le hdepth)] at h
    cases h

/-- **A table below another one** is read from a payload, one level deeper. -/
theorem parseAt_of_nested (h : t.nested kind maxKind = .ok (some inner)) :
    ∃ payload, t.get kind = some payload ∧
      parseAt (t.depth + 1) payload maxKind = .ok inner := by
  cases hget : t.get kind with
  | none =>
      rw [nested_of_absent hget] at h
      cases h
  | some payload =>
      rw [nested_of_present hget] at h
      cases hparse : parseAt (t.depth + 1) payload maxKind with
      | error e =>
          rw [hparse] at h
          cases h
      | ok read =>
          rw [hparse] at h
          cases h
          exact ⟨payload, rfl, hparse⟩

theorem depth_of_nested (h : t.nested kind maxKind = .ok (some inner)) :
    inner.depth = t.depth + 1 ∧ t.depth + 1 ≤ maxDepth := by
  obtain ⟨payload, -, hparse⟩ := parseAt_of_nested h
  exact depth_of_parseAt hparse

/-! ## Steps one after the other -/

/-- **The table that `n` steps down lead to**, with the bytes that it was read from. The first table
is read from all the bytes, and each step reads a payload of the table above. -/
inductive Reached (bytes : Bytes) : Nat → Bytes → AttrTable → Prop
  | top {maxKind : UInt16} {t : AttrTable} (h : parse bytes maxKind = .ok t) :
      Reached bytes 0 bytes t
  | down {n : Nat} {buffer payload : Bytes} {t inner : AttrTable} {kind maxKind : UInt16}
      (above : Reached bytes n buffer t) (present : t.get kind = some payload)
      (h : t.nested kind maxKind = .ok (some inner)) : Reached bytes (n + 1) payload inner

/-- **A table that is reached was read from its bytes**, at a depth that counts the steps. -/
theorem Reached.exists_parseAt (h : Reached bytes n buffer t) :
    ∃ maxKind, parseAt n buffer maxKind = .ok t := by
  induction h with
  | @top maxKind t h => exact ⟨maxKind, h⟩
  | @down n buffer payload t inner kind maxKind above present h ih =>
      obtain ⟨_, hparse⟩ := ih
      obtain ⟨read, hget, hinner⟩ := parseAt_of_nested h
      obtain rfl : read = payload := Option.some.inj (hget.symm.trans present)
      rw [(depth_of_parseAt hparse).1] at hinner
      exact ⟨maxKind, hinner⟩

/-- **What steps down from a table do**, if it was reached in `n` steps and read from `buffer`. -/
structure StepsDown (n : Nat) (buffer : Bytes) (t : AttrTable) : Prop where
  /-- Under an absent type there is no table, at any depth. -/
  absent : ∀ kind maxKind, t.get kind = none → t.nested kind maxKind = .ok none
  /-- A payload stands where an attribute of this type has it. -/
  inside : ∀ kind payload, t.get kind = some payload →
    ∃ (c : Attr.Cell) (start : Nat), c.StandsAt start buffer ∧ c.attr.kind = kind ∧
      c.attr.payload = payload
  shorter : ∀ kind payload, t.get kind = some payload → payload.length + 4 ≤ buffer.length
  /-- At the deepest level, and only there, it is too deep for every type that is present. -/
  tooDeep : ∀ kind maxKind max, t.nested kind maxKind = .error (.nestingTooDeep max) ↔
    n = maxDepth ∧ max = maxDepth ∧ ∃ payload, t.get kind = some payload
  /-- Above the deepest level, the payload alone decides what is read. -/
  reads : n < maxDepth → ∀ kind maxKind payload, t.get kind = some payload →
    ∃ read, t.nested kind maxKind = read.map some ∧ Reads payload maxKind (n + 1) read

/-- What is found in a table is an attribute of the sequence that the table was read from. -/
theorem exists_standsAt_of_get (hparse : parseAt n buffer maxKind = .ok t)
    (hget : t.get kind = some payload) :
    ∃ (c : Attr.Cell) (start : Nat), c.StandsAt start buffer ∧ c.attr.kind = kind ∧
      c.attr.payload = payload := by
  obtain ⟨-, hdepth⟩ := depth_of_parseAt hparse
  obtain ⟨-, -, attrs, hscan, hindex⟩ := (reads_parseAt buffer maxKind hdepth).indexes t hparse
  obtain ⟨a, hattr, rfl⟩ := Option.map_eq_some_iff.mp hget
  have hindexed : Indexes t.maxKind kind := by
    by_contra hnot
    rw [hindex.outside kind hnot] at hattr
    cases hattr
  rw [hindex.attr kind hindexed] at hattr
  obtain ⟨hmem, hkind⟩ := Attr.mem_of_lastOf hattr
  obtain ⟨c, start, rfl, hc⟩ := Attr.exists_standsAt_of_mem hscan hmem
  exact ⟨c, start, hc, hkind, rfl⟩

theorem nested_eq_tooDeep_iff (hdepth : t.depth ≤ maxDepth) (kind maxKind : UInt16) (max : Nat) :
    t.nested kind maxKind = .error (.nestingTooDeep max) ↔
      t.depth = maxDepth ∧ max = maxDepth ∧ ∃ payload, t.get kind = some payload := by
  cases hget : t.get kind with
  | none => simp [nested_of_absent hget]
  | some payload =>
      rw [nested_of_present hget]
      rcases Nat.lt_or_eq_of_le hdepth with hlt | heq
      · -- what is read from a payload fails only with an error of the scanner
        have hreads := reads_parseAt payload maxKind (Nat.succ_le_of_lt hlt)
        refine iff_of_false ?_ fun h => hlt.ne h.1
        intro herror
        cases hparse : parseAt (t.depth + 1) payload maxKind with
        | ok read => simp [hparse, Except.map] at herror
        | error e =>
            have he : e = .nestingTooDeep max := by simpa [hparse, Except.map] using herror
            subst he
            exact Attr.nestingTooDeep_not_mem_scan payload max ((hreads.fails _).mp hparse)
      · rw [parseAt_of_tooDeep (by omega)]
        simp [Except.map, heq, eq_comm]

theorem stepsDown_of_parseAt (hparse : parseAt n buffer maxKind = .ok t) :
    StepsDown n buffer t := by
  obtain ⟨rfl, hdepth⟩ := depth_of_parseAt hparse
  constructor
  case absent => exact fun kind maxKind hget => nested_of_absent hget maxKind
  case inside => exact fun kind payload hget => exists_standsAt_of_get hparse hget
  case shorter =>
    intro kind payload hget
    obtain ⟨c, start, hc, -, rfl⟩ := exists_standsAt_of_get hparse hget
    have hinside := hc.inside
    simp only [Attr.headerSize] at hinside
    omega
  case tooDeep => exact nested_eq_tooDeep_iff hdepth
  case reads =>
    intro hlt kind maxKind payload hget
    exact ⟨_, nested_of_present hget maxKind, reads_parseAt payload maxKind hlt⟩

/-! ## Walks -/

/-- A table that a step down from `t` leads to. -/
def Below (inner t : AttrTable) : Prop := ∃ kind maxKind, t.nested kind maxKind = .ok (some inner)

/-- **Going down comes to an end**, because it cannot go on below the deepest level. -/
theorem wellFounded_below : WellFounded Below := by
  refine Subrelation.wf ?_ (measure fun t : AttrTable => maxDepth - t.depth).wf
  rintro inner t ⟨kind, maxKind, h⟩
  have hdepth := depth_of_nested h
  show maxDepth - inner.depth < maxDepth - t.depth
  omega

/-- **One round of a walk**: one of the tables that are pending is visited, and tables below it, any
number of them, take its place. -/
inductive Round : Multiset AttrTable → Multiset AttrTable → Prop
  | visit (t : AttrTable) (read pending : Multiset AttrTable) (h : ∀ inner ∈ read, Below inner t) :
      Round (t ::ₘ pending) (read + pending)

/-- **Every walk comes to an end**, whatever it reads below a table that it visits. -/
theorem wellFounded_round : WellFounded fun after before => Round before after := by
  refine Subrelation.wf ?_ wellFounded_below.cutExpand
  rintro after before ⟨t, read, pending, h⟩
  refine ⟨read, t, h, ?_⟩
  rw [← Multiset.singleton_add]
  abel

end AttrTable

end PacketLog
