import Mathlib
import PacketLog.Proofs.Session.Handles

set_option autoImplicit false

/-! # The registry mirrors the kernel

At any time a group is in the registry if and only if the kernel acknowledged a bind of it, and
no unbind since (`groupList_mirrors_kernel`). The binds and unbinds of one group that the kernel
acknowledges alternate, so it is enough to count them: the group is bound when their number is
odd. This is the invariant `Session.Mirrors`. -/

namespace PacketLog

/-! ## Alternation -/

/-- Binds and unbinds in turn, a bind first. -/
def Alternates (commands : List Command) : Prop :=
  ∀ (i : Nat) (h : i < commands.length),
    commands[i] = if i % 2 = 0 then .bindGroup else .unbindGroup

theorem alternates_nil : Alternates [] := by
  intro i h
  exact absurd h (Nat.not_lt_zero i)

theorem alternates_snoc {commands : List Command} {c : Command} (h : Alternates commands)
    (hc : c = if commands.length % 2 = 0 then .bindGroup else .unbindGroup) :
    Alternates (commands ++ [c]) := by
  intro i hi
  rw [List.length_append, List.length_singleton] at hi
  by_cases hlt : i < commands.length
  · rw [List.getElem_append_left hlt]
    exact h i hlt
  · obtain rfl : i = commands.length := by omega
    rw [List.getElem_append_right (Nat.le_refl _)]
    simpa using hc

/-- The last command is a bind when there is an odd number of them. -/
theorem getLast?_eq_bindGroup_iff {commands : List Command} (h : Alternates commands) :
    commands.getLast? = some .bindGroup ↔ commands.length % 2 = 1 := by
  by_cases hnil : commands = []
  · subst hnil
    simp
  · have hpos : 0 < commands.length := List.length_pos_iff.mpr hnil
    have hlast := h (commands.length - 1) (by omega)
    rw [List.getLast?_eq_getElem?, List.getElem?_eq_getElem (by omega), hlast]
    by_cases hpar : (commands.length - 1) % 2 = 0
    · rw [if_pos hpar]
      constructor
      · intro _
        omega
      · intro _
        rfl
    · rw [if_neg hpar]
      constructor
      · intro hfalse
        cases hfalse
      · intro hodd
        omega

namespace Session

variable {τ ω : Type}

/-! ## The invariant -/

/-- The registry holds the groups with an odd number of acknowledged binds and unbinds, each
under its handle. -/
structure Mirrors (s : Session (Recorded τ) ω) : Prop where
  session : s.registry.session = s.number
  alternates : ∀ g, Alternates (acknowledgements g s.transport.uses)
  bound_iff : ∀ g, (s.registry.find? g).isSome = true ↔
    (acknowledgements g s.transport.uses).length % 2 = 1
  handle : ∀ (g : UInt16) (e : GroupEntry (Handler ω)),
    s.registry.find? g = some e → e.handle = ⟨s.number, g⟩

namespace Mirrors

theorem owned {s : Session (Recorded τ) ω} (h : Mirrors s) : Owned s := ⟨h.session, h.handle⟩

/-- Nothing is bound in a new session, and nothing has been acknowledged. -/
theorem start (numbers : SessionNumbers) (t : τ) (w : ω) :
    Mirrors (Session.start numbers t w).1.recorded := by
  have hfind : ∀ g, (Session.start numbers t w).1.recorded.registry.find? g = none :=
    Registry.find?_new _
  refine ⟨rfl, fun _ => alternates_nil, fun g => ?_, fun g e he => ?_⟩
  · rw [hfind]
    constructor
    · intro h
      cases h
    · intro h
      cases h
  · rw [hfind] at he
    cases he

/-- A group is not bound when the number of its acknowledged binds and unbinds is even. -/
theorem even_of_absent {s : Session (Recorded τ) ω} (h : Mirrors s) {g : UInt16}
    (hg : s.registry.find? g = none) :
    (acknowledgements g s.transport.uses).length % 2 = 0 := by
  have hbound := h.bound_iff g
  rw [hg] at hbound
  by_contra hne
  cases hbound.mpr (by omega)

/-- **Whatever changes the registry keeps it a mirror.** -/
theorem of_effect {s t : Session (Recorded τ) ω} {c : Change (Handler ω)} (h : Mirrors s)
    (he : Effect s t c) : Mirrors t := by
  obtain ⟨new, huses, hnew⟩ := he.uses
  -- the log tells of `t` what it told of `s`, and then what the change brought
  have hacks : ∀ g, acknowledgements g t.transport.uses =
      acknowledgements g s.transport.uses ++ c.acknowledged g := by
    intro g
    rw [huses, acknowledgements_append, hnew]
  have hcases := Change.subscription_cases he.allowed s.registry.session
  constructor
  case session => exact (h.owned.of_effect he).session
  case alternates =>
    intro g
    rw [hacks]
    -- a bind is acknowledged after an even number of commands only, an unbind after an odd one
    rcases hcases g with ⟨hack, -⟩ | ⟨hack, habsent, -⟩ | ⟨hack, hbound, -⟩
    · rw [hack, List.append_nil]
      exact h.alternates g
    · rw [hack]
      exact alternates_snoc (h.alternates g) (by rw [if_pos (h.even_of_absent habsent)])
    · have hodd := (h.bound_iff g).mp hbound
      rw [hack]
      exact alternates_snoc (h.alternates g) (by rw [if_neg (by omega)])
  case bound_iff =>
    intro g
    rw [hacks, he.entry, List.length_append]
    rcases hcases g with ⟨hack, hentry⟩ | ⟨hack, habsent, hentry⟩ | ⟨hack, hbound, hentry⟩
    · rw [hack, hentry]
      exact h.bound_iff g
    · have heven := h.even_of_absent habsent
      rw [hack, hentry, List.length_singleton]
      constructor
      · intro _
        omega
      · intro _
        rfl
    · have hodd := (h.bound_iff g).mp hbound
      rw [hack, hentry, List.length_singleton]
      constructor
      · intro hfalse
        cases hfalse
      · intro _
        omega
  case handle => exact (h.owned.of_effect he).handle

end Mirrors

variable [Transport τ]

/-- The registry is a mirror in every state that can be reached. -/
theorem mirrors_performAll (numbers : SessionNumbers) (t : τ) (w : ω)
    (actions : List (Action ω)) :
    Mirrors ((Session.start numbers t w).1.recorded.performAll actions) :=
  performAll_induction (.start numbers t w)
    (fun s a h => h.of_effect (s.effect_perform a)) actions

/-- A session keeps its number. -/
theorem number_performAll (s : Session τ ω) (actions : List (Action ω)) :
    (s.performAll actions).number = s.number := by
  refine performAll_induction (motive := fun t => t.number = s.number) rfl (fun t a ht => ?_) actions
  rw [t.number_perform, ht]

end Session

/-- **The bound groups are those that the kernel believes to be bound**, in every state that a
session can reach, whatever the transport answers. -/
theorem groupList_mirrors_kernel {τ ω : Type} [Transport τ] (numbers : SessionNumbers) (t : τ)
    (w : ω) (actions : List (Action ω)) :
    let start := (Session.start numbers t w).1
    let s := start.performAll actions
    let acks (g : UInt16) := acknowledgements g (start.usesOf actions)
    s.groupList.Pairwise (· < ·) ∧
      (∀ g, g ∈ s.groupList ↔ (acks g).getLast? = some .bindGroup) ∧
      (∀ g, Alternates (acks g)) ∧
      (∀ g e, s.registry.find? g = some e → e.handle = ⟨s.number, g⟩) ∧
      s.number = numbers.next ∧
      ∀ g, s.find? g = if g ∈ s.groupList then some ⟨s.number, g⟩ else none := by
  intro start s acks
  have h : (start.recorded.performAll actions).Mirrors :=
    Session.mirrors_performAll numbers t w actions
  have hregistry : (start.recorded.performAll actions).registry = s.registry :=
    start.registry_performAll_recorded actions
  have hnumber : (start.recorded.performAll actions).number = s.number :=
    start.number_performAll_recorded actions
  have hbound : ∀ g, g ∈ s.groupList ↔ (s.registry.find? g).isSome = true :=
    s.registry.mem_groupList
  have hhandle : ∀ g e, s.registry.find? g = some e → e.handle = ⟨s.number, g⟩ := by
    intro g e he
    rw [← hregistry] at he
    rw [← hnumber]
    exact h.handle g e he
  refine ⟨s.registry.pairwise_groupList, fun g => ?_, h.alternates, hhandle, ?_, fun g => ?_⟩
  · rw [hbound, ← hregistry, h.bound_iff]
    exact (getLast?_eq_bindGroup_iff (h.alternates g)).symm
  · exact start.number_performAll actions
  · rw [Session.find?]
    cases he : s.registry.find? g with
    | none => rw [if_neg (by rw [hbound, he]; simp)]; rfl
    | some e =>
        rw [if_pos (by rw [hbound, he]; rfl), ← hhandle g e he]
        rfl

end PacketLog
