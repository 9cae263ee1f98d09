import Mathlib
import PacketLog.Proofs.Record.Independence

set_option autoImplicit false

/-! # Two ways to the connection's id

The id of a connection can be looked for among the children of the connection tracking attribute, or
taken from the table of them. The search ends with the first id, so that it does not notice what is
malformed behind it; the table is read as a whole, and keeps the last id. Where these differ and
where they cannot is `connection_id_read_twice`. -/

namespace PacketLog

namespace WireError

/-- The bytes are no attribute sequence, wherever an attribute's payload may be read from. -/
def IsFraming : WireError → Prop
  | truncatedHeader .. | lengthTooShort .. | lengthOverflow .. => True
  | _ => False

end WireError

namespace Attr

/-- The first attribute of a type. -/
def firstOf (kind : UInt16) (attrs : List Attr) : Option Attr :=
  attrs.find? fun a => a.kind = kind

theorem firstOf_eq_none_iff {kind : UInt16} {attrs : List Attr} :
    firstOf kind attrs = none ↔ ∀ a ∈ attrs, a.kind ≠ kind := by
  simp only [firstOf, List.find?_eq_none, decide_eq_true_eq, ne_eq]

/-- **The first attribute of a type is the last one**, if there is at most one. -/
theorem firstOf_eq_lastOf {kind : UInt16} {attrs : List Attr}
    (h : (attrs.countP fun a => a.kind = kind) ≤ 1) : firstOf kind attrs = lastOf kind attrs := by
  rw [firstOf, lastOf, ← List.head?_filter]
  rw [List.countP_eq_length_filter] at h
  generalize attrs.filter (fun a => decide (a.kind = kind)) = found at h ⊢
  cases found with
  | nil => rfl
  | cons a rest =>
      have hrest : rest = [] := List.eq_nil_of_length_eq_zero (by simpa using h)
      rw [hrest]
      rfl

end Attr

namespace LogRecord

open Attr (firstOf lastOf scan scanned lastPayload Sequence joined)

/-- What the attribute that was found says as the id of a connection. -/
def idIn (found : Option Attr) : Except WireError (Option UInt32) :=
  (Attr.numberIn Field.connectionId 4 found).map (·.map UInt32.ofNat)

theorem idIn_eq_none_iff {found : Option Attr} : idIn found = .ok none ↔ found = none := by
  cases found with
  | none => simp [idIn, Attr.numberIn, Except.map]
  | some a =>
      rw [idIn, Attr.numberIn]
      split <;> simp [Except.map]

/-- A payload that is found is at most of the wrong width. -/
theorem not_isFraming_of_idIn {found : Option Attr} {e : WireError} (h : idIn found = .error e) :
    ¬ e.IsFraming := by
  cases found with
  | none => cases h
  | some a =>
      rw [idIn, Attr.numberIn] at h
      split at h
      · cases h
      · cases h
        exact id

/-! ## The search -/

/-- **The search is decided by the first id**, whatever comes behind it. -/
theorem findConnectionId_append (attrs : List Attr) (later : List (Except WireError Attr)) :
    findConnectionId (attrs.map .ok ++ later) =
      if firstOf Field.connectionId attrs = none then findConnectionId later
      else idIn (firstOf Field.connectionId attrs) := by
  -- up to the first id, each attribute is passed over by the search and by `firstOf`
  induction attrs with
  | nil => rfl
  | cons a attrs ih =>
      rw [List.map_cons, List.cons_append, findConnectionId]
      by_cases h : a.kind = Field.connectionId
      · have hfirst : firstOf Field.connectionId (a :: attrs) = some a := by
          simp only [firstOf, List.find?_cons, h, decide_true]
        rw [if_neg (not_not.mpr h), hfirst, if_neg (Option.some_ne_none a), idIn, Attr.numberIn]
        split <;> rfl
      · have hfirst : firstOf Field.connectionId (a :: attrs) = firstOf Field.connectionId attrs := by
          simp only [firstOf, List.find?_cons, h, decide_false]
        rw [if_pos h, hfirst, ih]

theorem findConnectionId_ok (attrs : List Attr) :
    findConnectionId (attrs.map .ok) = idIn (firstOf Field.connectionId attrs) := by
  have happend := findConnectionId_append attrs []
  rw [List.append_nil] at happend
  rw [happend]
  split
  · rename_i hnone
    rw [hnone]
    rfl
  · rfl

theorem findConnectionId_error (attrs : List Attr) (e : WireError) :
    findConnectionId (attrs.map .ok ++ [.error e]) =
      if firstOf Field.connectionId attrs = none then .error e
      else idIn (firstOf Field.connectionId attrs) :=
  findConnectionId_append attrs [.error e]

/-! ## Both ways -/

section Both

variable {bytes span : Bytes} {r : LogRecord} {attrs : List Attr}

theorem get_conntrack (h : parse bytes = .ok r) :
    r.attrs.get Field.conntrack = lastPayload Field.conntrack bytes := by
  rw [get_of_parse h, if_pos (by decide)]

/-- A record can consist of a connection tracking attribute and nothing else. -/
theorem exists_record_of_span (hscan : scan bytes = [.ok { word := Field.conntrack, payload := span }]) :
    ∃ r, parse bytes = .ok r ∧ lastPayload Field.conntrack bytes = some span := by
  let a : Attr := { word := Field.conntrack, payload := span }
  have hscan : scan bytes = [a].map .ok := hscan
  have hkind : a.kind = Field.conntrack := by
    show Field.conntrack &&& Attr.kindMask = Field.conntrack
    decide
  refine ⟨_, congrArg (Except.map mk) (AttrTable.parse_of_scan hscan Field.last), ?_⟩
  rw [lastPayload, Attr.scanned_of_scan hscan, lastOf, List.filter_singleton, hkind]
  rfl

theorem connectionId_of_absent (h : parse bytes = .ok r)
    (habsent : lastPayload Field.conntrack bytes = none) :
    r.connectionId = .ok none ∧ r.conntrack = .ok none := by
  have hget := (get_conntrack h).trans habsent
  constructor
  · rw [connectionId, hget]
  · rw [conntrack, AttrTable.nested, hget]

theorem connectionId_of_span (h : parse bytes = .ok r)
    (hspan : lastPayload Field.conntrack bytes = some span) :
    r.connectionId = findConnectionId (scan span) := by
  rw [connectionId, (get_conntrack h).trans hspan]

theorem conntrack_of_span (h : parse bytes = .ok r)
    (hspan : lastPayload Field.conntrack bytes = some span) :
    r.conntrack = (AttrTable.parseAt 1 span Field.lastConntrack).map some := by
  rw [conntrack, AttrTable.nested, (get_conntrack h).trans hspan, (indexOf_of_parse h).2.1]

/-- **In a sequence without an error** the search finds the first id and the table holds the
last. -/
theorem both_of_sequence (h : parse bytes = .ok r)
    (hspan : lastPayload Field.conntrack bytes = some span) (hscan : scan span = attrs.map .ok) :
    r.connectionId = idIn (firstOf Field.connectionId attrs) ∧
      ∃ t, r.conntrack = .ok (some t) ∧
        t.uint32 Field.connectionId = idIn (lastOf Field.connectionId attrs) := by
  constructor
  · rw [connectionId_of_span h hspan, hscan, findConnectionId_ok]
  · have hindex := AttrTable.indexOf_foldl_add attrs Field.lastConntrack 1
    refine ⟨attrs.foldl AttrTable.add { maxKind := Field.lastConntrack, depth := 1 }, ?_, ?_⟩
    · rw [conntrack_of_span h hspan, AttrTable.parseAt_of_scan hscan (by decide)]
      rfl
    · rw [AttrTable.uint32, AttrTable.number_eq, hindex.attr]
      · rfl
      · rw [AttrTable.maxKind_foldl_add]
        decide

/-- **In front of an error** the search finds the first id, and there is no table. -/
theorem both_of_error (h : parse bytes = .ok r)
    (hspan : lastPayload Field.conntrack bytes = some span) {e : WireError}
    (hscan : scan span = attrs.map .ok ++ [.error e]) :
    r.conntrack = .error e ∧
      r.connectionId = if firstOf Field.connectionId attrs = none then .error e
        else idIn (firstOf Field.connectionId attrs) := by
  constructor
  · rw [conntrack_of_span h hspan, AttrTable.parseAt_of_error hscan (by decide)]
    rfl
  · rw [connectionId_of_span h hspan, hscan, findConnectionId_error]

/-- **No id is found** if and only if there is nothing to search, or a sequence without an id. -/
theorem connectionId_eq_none_iff (h : parse bytes = .ok r) :
    r.connectionId = .ok none ↔ lastPayload Field.conntrack bytes = none ∨
      ∃ cells, lastPayload Field.conntrack bytes = some (joined cells) ∧ Sequence cells ∧
        ∀ c ∈ cells, c.attr.kind ≠ Field.connectionId := by
  cases hspan : lastPayload Field.conntrack bytes with
  | none => simp only [(connectionId_of_absent h hspan).1, true_or]
  | some span =>
      simp only [reduceCtorEq, false_or, Option.some.injEq]
      constructor
      · intro hnone
        obtain ⟨attrs, hscan | ⟨e, hscan⟩⟩ := Attr.scan_cases span
        · rw [(both_of_sequence h hspan hscan).1, idIn_eq_none_iff, Attr.firstOf_eq_none_iff]
            at hnone
          obtain ⟨cells, hseq, hjoin, hattrs⟩ := Attr.scan_eq_map_ok_iff.mp hscan
          refine ⟨cells, hjoin.symm, hseq, fun c hc => hnone c.attr ?_⟩
          rw [← hattrs]
          exact List.mem_map_of_mem hc
        · -- the search would have run into the error, or found an id before it
          rw [(both_of_error h hspan hscan).2] at hnone
          split at hnone
          · cases hnone
          · rename_i hfound
            exact absurd (idIn_eq_none_iff.mp hnone) hfound
      · rintro ⟨cells, rfl, hseq, hnone⟩
        have hscan := Attr.scan_sequence_eq_map hseq
        rw [(both_of_sequence h hspan hscan).1, idIn_eq_none_iff, Attr.firstOf_eq_none_iff]
        intro a ha
        obtain ⟨c, hc, rfl⟩ := List.mem_map.mp ha
        exact hnone c hc

/-- **An error of the framing** ends both ways. -/
theorem conntrack_of_framing (h : parse bytes = .ok r) {e : WireError} (hframing : e.IsFraming)
    (herror : r.connectionId = .error e) : r.conntrack = .error e := by
  cases hspan : lastPayload Field.conntrack bytes with
  | none =>
      rw [(connectionId_of_absent h hspan).1] at herror
      cases herror
  | some span =>
      obtain ⟨attrs, hscan | ⟨e', hscan⟩⟩ := Attr.scan_cases span
      · rw [(both_of_sequence h hspan hscan).1] at herror
        exact absurd hframing (not_isFraming_of_idIn herror)
      · obtain ⟨htable, hsearch⟩ := both_of_error h hspan hscan
        rw [hsearch] at herror
        split at herror
        · rw [htable, Except.error.inj herror]
        · exact absurd hframing (not_isFraming_of_idIn herror)

/-- **With at most one id** both ways lead to it. -/
theorem connectionId_eq_of_count (h : parse bytes = .ok r) {t : AttrTable}
    (htable : r.conntrack = .ok (some t))
    (hspan : lastPayload Field.conntrack bytes = some span)
    (hcount : ((scanned span).countP fun a => a.kind = Field.connectionId) ≤ 1) :
    r.connectionId = t.uint32 Field.connectionId := by
  obtain ⟨attrs, hscan | ⟨e, hscan⟩⟩ := Attr.scan_cases span
  · obtain ⟨hsearch, t', htable', hlast⟩ := both_of_sequence h hspan hscan
    obtain rfl : t' = t := Option.some.inj (Except.ok.inj (htable'.symm.trans htable))
    rw [Attr.scanned_of_scan hscan] at hcount
    rw [hsearch, hlast, Attr.firstOf_eq_lastOf hcount]
  · rw [(both_of_error h hspan hscan).1] at htable
    cases htable

end Both

end LogRecord

open Attr LogRecord in
/-- **The two ways to the id of a connection.** The search gives no id if and only if the connection
tracking attribute is absent or is a sequence without one; if it runs into an error of the framing,
the table has the same error; and where the table exists and there is at most one id, both say the
same. In general the search is decided by the first id in front of an error, while the table holds
the last. -/
theorem connection_id_read_twice {bytes : Bytes} {r : LogRecord}
    (h : LogRecord.parse bytes = .ok r) :
    (r.connectionId = .ok none ↔ lastPayload Field.conntrack bytes = none ∨
      ∃ cells, lastPayload Field.conntrack bytes = some (joined cells) ∧ Sequence cells ∧
        ∀ c ∈ cells, c.attr.kind ≠ Field.connectionId) ∧
    (∀ e, e.IsFraming → r.connectionId = .error e → r.conntrack = .error e) ∧
    (∀ span t, lastPayload Field.conntrack bytes = some span → r.conntrack = .ok (some t) →
      ((scanned span).countP fun a => a.kind = Field.connectionId) ≤ 1 →
        r.connectionId = t.uint32 Field.connectionId) ∧
    ∀ span attrs, lastPayload Field.conntrack bytes = some span →
      (scan span = attrs.map .ok →
        r.connectionId = idIn (firstOf Field.connectionId attrs) ∧
          ∃ t, r.conntrack = .ok (some t) ∧
            t.uint32 Field.connectionId = idIn (lastOf Field.connectionId attrs)) ∧
      ∀ e, scan span = attrs.map .ok ++ [.error e] →
        r.conntrack = .error e ∧
          r.connectionId = if firstOf Field.connectionId attrs = none then .error e
            else idIn (firstOf Field.connectionId attrs) := by
  refine ⟨connectionId_eq_none_iff h, fun e => conntrack_of_framing h, ?_, ?_⟩
  · intro span t hspan htable hcount
    exact connectionId_eq_of_count h htable hspan hcount
  · intro span attrs hspan
    exact ⟨both_of_sequence h hspan, fun e => both_of_error h hspan⟩

open Attr LogRecord in
/-- With two ids in the connection tracking attribute, the search finds the first and the table holds
the last. With something malformed behind an id, there is no table. -/
theorem connection_id_of_two_ids :
    let id (n : UInt8) : Bytes := [8, 0, 12, 0, 0, 0, 0, n]
    (∃ r t, LogRecord.parse ([20, 0, 18, 0] ++ (id 7 ++ id 9)) = .ok r ∧
      r.connectionId = .ok (some 7) ∧ r.conntrack = .ok (some t) ∧
        t.uint32 Field.connectionId = .ok (some 9)) ∧
    ∃ r, LogRecord.parse ([16, 0, 18, 0] ++ (id 7 ++ [3, 0, 12, 0])) = .ok r ∧
      r.connectionId = .ok (some 7) ∧ r.conntrack = .error (.lengthTooShort 8 3) := by
  intro id
  let found (n : UInt8) : Attr := { word := Field.connectionId, payload := [0, 0, 0, n] }
  constructor
  · obtain ⟨r, hparse, hspan⟩ := exists_record_of_span
      (show scan ([20, 0, 18, 0] ++ (id 7 ++ id 9)) =
        [.ok { word := Field.conntrack, payload := id 7 ++ id 9 }] by decide +kernel +zetaReduce)
    have hscan : scan (id 7 ++ id 9) = [found 7, found 9].map .ok := by decide +kernel +zetaReduce
    obtain ⟨hfirst, t, htable, hlast⟩ :=
      ((connection_id_read_twice hparse).2.2.2 _ _ hspan).1 hscan
    refine ⟨r, t, hparse, hfirst.trans ?_, htable, hlast.trans ?_⟩
    · decide +kernel +zetaReduce
    · decide +kernel +zetaReduce
  · obtain ⟨r, hparse, hspan⟩ := exists_record_of_span
      (show scan ([16, 0, 18, 0] ++ (id 7 ++ [3, 0, 12, 0])) =
        [.ok { word := Field.conntrack, payload := id 7 ++ [3, 0, 12, 0] }] by
          decide +kernel +zetaReduce)
    have hscan : scan (id 7 ++ [3, 0, 12, 0]) =
        [found 7].map .ok ++ [.error (.lengthTooShort 8 3)] := by
      decide +kernel +zetaReduce
    obtain ⟨htable, hfirst⟩ := ((connection_id_read_twice hparse).2.2.2 _ _ hspan).2 _ hscan
    refine ⟨r, hparse, hfirst.trans ?_, htable⟩
    decide +kernel +zetaReduce

end PacketLog
