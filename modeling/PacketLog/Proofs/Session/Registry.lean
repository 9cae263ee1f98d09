import Mathlib
import PacketLog.Session.Registry

set_option autoImplicit false

/-! # What the operations of a registry do

Each operation either fails or changes the entry of one group; `find?_put` and `find?_erase` say
what is found afterwards. `SessionError.isLocal` tells a registry's errors from all others. The
bound groups are those with an entry, in ascending order (`mem_groupList`, `pairwise_groupList`). -/

namespace PacketLog

/-- Whether a registry gives the error, so that the kernel need not be asked. -/
def SessionError.isLocal : SessionError → Bool
  | conflict _ => true
  | staleHandle => true
  | unknownGroup _ => true
  | _ => false

/-- A transport's error is never one of the registry's. -/
theorem SessionError.isLocal_ofTransport (e : TransportError) :
    (SessionError.ofTransport e).isLocal = false := by
  cases e <;> rfl

namespace Registry

variable {η : Type}

/-! ## Entries -/

theorem find?_new (n : UInt64) (g : UInt16) : (Registry.new n : Registry η).find? g = none :=
  Std.TreeMap.getElem?_emptyc

theorem find?_put (r : Registry η) (k : UInt16) (e : GroupEntry η) (g : UInt16) :
    ({ r with groups := r.groups.insert k e } : Registry η).find? g =
      if k = g then some e else r.find? g := by
  simp only [find?, Std.TreeMap.getElem?_insert, Std.LawfulEqOrd.compare_eq_iff_eq]

theorem find?_erase (r : Registry η) (k g : UInt16) :
    ({ r with groups := r.groups.erase k } : Registry η).find? g =
      if k = g then none else r.find? g := by
  simp only [find?, Std.TreeMap.getElem?_erase, Std.LawfulEqOrd.compare_eq_iff_eq]

theorem insert_of_absent {r : Registry η} {g : UInt16} (h : r.find? g = none) :
    r.insert g = .ok (r.handleOf g,
      { r with groups := r.groups.insert g { handle := r.handleOf g } }) := by
  rw [insert, h]

/-! ## Live handles -/

/-- **When a handle is live**: it comes from the registry's session, and its group is bound. -/
theorem resolve_eq_ok_iff {r : Registry η} {h : GroupHandle} {e : GroupEntry η} :
    r.resolve h = .ok e ↔ h.session = r.session ∧ r.find? h.group = some e := by
  unfold resolve
  by_cases hs : h.session = r.session
  · rw [if_neg (not_not.mpr hs)]
    cases hf : r.find? h.group with
    | none => simp
    | some e' => simp [hs]
  · rw [if_pos hs]
    simp [hs]

/-- A handle of another session is stale, whatever is bound. -/
theorem resolve_of_foreign {r : Registry η} {h : GroupHandle} (hs : h.session ≠ r.session) :
    r.resolve h = .error .staleHandle :=
  if_pos hs

/-- A handle of the registry's own session is dead while its group is not bound. -/
theorem resolve_of_unbound {r : Registry η} {h : GroupHandle} (hs : h.session = r.session)
    (hf : r.find? h.group = none) : r.resolve h = .error (.unknownGroup h.group) := by
  rw [resolve, if_neg (not_not.mpr hs), hf]

theorem setHandler_of_ok {r : Registry η} {h : GroupHandle} {e : GroupEntry η}
    (he : r.resolve h = .ok e) (handler : Option η) :
    r.setHandler h handler =
      .ok { r with groups := r.groups.insert h.group { e with handler } } := by
  rw [setHandler, he]
  rfl

theorem setHandler_of_error {r : Registry η} {h : GroupHandle} {e : SessionError}
    (he : r.resolve h = .error e) (handler : Option η) : r.setHandler h handler = .error e := by
  rw [setHandler, he]
  rfl

theorem remove_of_ok {r : Registry η} {h : GroupHandle} {e : GroupEntry η}
    (he : r.resolve h = .ok e) :
    r.remove h = .ok (e, { r with groups := r.groups.erase h.group }) := by
  rw [remove, he]
  rfl

theorem remove_of_error {r : Registry η} {h : GroupHandle} {e : SessionError}
    (he : r.resolve h = .error e) : r.remove h = .error e := by
  rw [remove, he]
  rfl

/-! ## The bound groups -/

theorem pairwise_groupList (r : Registry η) : r.groupList.Pairwise (· < ·) :=
  Std.TreeMap.ordered_keys.imp Std.compare_eq_lt.mp

theorem mem_groupList (r : Registry η) (g : UInt16) :
    g ∈ r.groupList ↔ (r.find? g).isSome = true := by
  rw [groupList, Std.TreeMap.mem_keys, Std.TreeMap.mem_iff_isSome_getElem?]
  rfl

end Registry

end PacketLog
