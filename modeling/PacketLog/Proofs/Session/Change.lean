import Mathlib
import PacketLog.Proofs.Session.Action
import PacketLog.Proofs.Session.Registry

set_option autoImplicit false

/-! # Changes of the registry

A call changes the entry of one group or of none, and the kernel acknowledges the bind or the
unbind that goes with the change. A `Change` says which entry changes and how; which change a
call makes is told by its answer (`Action.change`). -/

namespace PacketLog

/-- A change of one group's entry in the registry. -/
inductive Change (η : Type) where
  | none
  /-- The group was bound, with a handler if one came with it. -/
  | bound (group : UInt16) (handler : Option η)
  /-- The group was unbound. -/
  | ended (group : UInt16)
  /-- The handler of a bound group was installed or taken away. -/
  | handed (group : UInt16) (handler : Option η)

namespace Change

variable {η : Type}

/-- The entry of group `g` after the change, in the registry of session `n`. -/
def entry (c : Change η) (n : UInt64) (g : UInt16) (old : Option (GroupEntry η)) :
    Option (GroupEntry η) :=
  match c with
  | none => old
  | bound k handler => if k = g then some { handle := ⟨n, k⟩, handler } else old
  | ended k => if k = g then Option.none else old
  | handed k handler => if k = g then old.map fun e => { e with handler } else old

/-- The bind or unbind of group `g` that the kernel acknowledged for the change. -/
def acknowledged (c : Change η) (g : UInt16) : List Command :=
  match c with
  | bound k _ => if k = g then [.bindGroup] else []
  | ended k => if k = g then [.unbindGroup] else []
  | _ => []

/-- Only a group that is not bound can be bound, and only a bound one can change. -/
def Allowed (c : Change η) (r : Registry η) : Prop :=
  match c with
  | none => True
  | bound k _ => r.find? k = Option.none
  | ended k => (r.find? k).isSome = true
  | handed k _ => (r.find? k).isSome = true

/-- **What an allowed change does to the subscription to one group**: nothing, or the group was
not bound and is bound now, or it was and is no longer. -/
theorem subscription_cases {c : Change η} {r : Registry η} (h : c.Allowed r) (n : UInt64)
    (g : UInt16) :
    (c.acknowledged g = [] ∧ (c.entry n g (r.find? g)).isSome = (r.find? g).isSome) ∨
      (c.acknowledged g = [.bindGroup] ∧ r.find? g = Option.none ∧
        (c.entry n g (r.find? g)).isSome = true) ∨
      (c.acknowledged g = [.unbindGroup] ∧ (r.find? g).isSome = true ∧
        c.entry n g (r.find? g) = Option.none) := by
  cases c with
  | none => exact Or.inl ⟨rfl, rfl⟩
  | bound k handler =>
      simp only [acknowledged, entry]
      by_cases hk : k = g
      · subst hk
        rw [if_pos rfl, if_pos rfl]
        exact Or.inr (Or.inl ⟨rfl, h, rfl⟩)
      · rw [if_neg hk, if_neg hk]
        exact Or.inl ⟨rfl, rfl⟩
  | ended k =>
      simp only [acknowledged, entry]
      by_cases hk : k = g
      · subst hk
        rw [if_pos rfl, if_pos rfl]
        exact Or.inr (Or.inr ⟨rfl, h, rfl⟩)
      · rw [if_neg hk, if_neg hk]
        exact Or.inl ⟨rfl, rfl⟩
  | handed k handler =>
      simp only [acknowledged, entry]
      by_cases hk : k = g
      · rw [if_pos hk]
        exact Or.inl ⟨trivial, Option.isSome_map⟩
      · rw [if_neg hk]
        exact Or.inl ⟨trivial, rfl⟩

/-- After a change the entry of a group is under the group's handle, if it was before. -/
theorem handle_of_entry {c : Change η} {n : UInt64} {g : UInt16} {old : Option (GroupEntry η)}
    (hold : ∀ e, old = some e → e.handle = ⟨n, g⟩) {e : GroupEntry η}
    (he : c.entry n g old = some e) : e.handle = ⟨n, g⟩ := by
  cases c with
  | none => exact hold e he
  | bound k handler =>
      simp only [entry] at he
      split_ifs at he with hk
      · cases he
        rw [hk]
      · exact hold e he
  | ended k =>
      simp only [entry] at he
      split_ifs at he with hk
      exact hold e he
  | handed k handler =>
      simp only [entry] at he
      split_ifs at he with hk
      · obtain ⟨e', he', rfl⟩ := Option.map_eq_some_iff.mp he
        exact hold e' he'
      · exact hold e he

/-! ## The entry after a change -/

/-- A group is bound under a handle after a change if the change binds it, or if it was before and
the change does not end it. -/
theorem exists_entry_iff {c : Change η} {r : Registry η} (hallowed : c.Allowed r) {n : UInt64}
    {g : UInt16} {h : GroupHandle} :
    (∃ handler, c.entry n g (r.find? g) = some { handle := h, handler }) ↔
      ((∃ f, c = .bound g f) ∧ h = ⟨n, g⟩) ∨
        ((∃ handler, r.find? g = some { handle := h, handler }) ∧ ¬ c = .ended g) := by
  cases c with
  | none => simp [entry]
  | bound k f =>
      simp only [entry]
      by_cases hk : k = g
      · subst hk
        have habsent : r.find? k = Option.none := hallowed
        rw [if_pos rfl, habsent]
        simp [eq_comm]
      · rw [if_neg hk]
        simp [hk]
  | ended k =>
      simp only [entry]
      by_cases hk : k = g
      · simp [hk]
      · simp [hk]
  | handed k f =>
      simp only [entry]
      by_cases hk : k = g
      · cases he : r.find? g with
        | none => simp [hk]
        | some e =>
            obtain ⟨handle, handler⟩ := e
            simp [hk]
      · simp [hk]

/-- A handler is installed after a change if the change installs it, or if it was before and the
change neither ends the subscription nor sets another handler or none. -/
theorem entry_eq_some_iff {c : Change η} {r : Registry η} (hallowed : c.Allowed r) {n : UInt64}
    {g : UInt16} {h : GroupHandle} {f : η} :
    c.entry n g (r.find? g) = some { handle := h, handler := some f } ↔
      (((∃ f', c = .bound g f') ∧ h = ⟨n, g⟩) ∧
          (c = .bound g (some f) ∨ c = .handed g (some f))) ∨
        ((∃ handler, r.find? g = some { handle := h, handler }) ∧ ¬ c = .ended g ∧
          (c = .bound g (some f) ∨ c = .handed g (some f))) ∨
          (r.find? g = some { handle := h, handler := some f } ∧ ¬ c = .ended g ∧
            ¬ (c = .handed g Option.none ∨
              ∃ f', c = .bound g (some f') ∨ c = .handed g (some f'))) := by
  cases c with
  | none => simp [entry]
  | bound k f' =>
      simp only [entry]
      by_cases hk : k = g
      · subst hk
        have habsent : r.find? k = Option.none := hallowed
        rw [if_pos rfl, habsent]
        simp [eq_comm]
      · rw [if_neg hk]
        simp [hk]
  | ended k =>
      simp only [entry]
      by_cases hk : k = g
      · simp [hk]
      · simp [hk]
  | handed k f' =>
      simp only [entry]
      by_cases hk : k = g
      · cases he : r.find? g with
        | none => simp [hk]
        | some e =>
            obtain ⟨handle, handler⟩ := e
            cases f' with
            | none => simp [hk]
            | some f' => simp [hk]
      · simp [hk]

end Change

/-- The change that a call makes, given its answer. A call that fails changes nothing. -/
def Action.change {ω : Type} (a : Action ω) (r : Except SessionError Response) :
    Change (Handler ω) :=
  match a, r with
  | .bindGroup g, .ok _ => .bound g none
  | .bindGroupWith g handler, .ok _ => .bound g (some handler)
  | .unbindGroup h, .ok _ => .ended h.group
  | .setCallback h handler, .ok _ => .handed h.group (some handler)
  | .clearCallback h, .ok _ => .handed h.group none
  | _, _ => .none

theorem Action.change_error {ω : Type} (a : Action ω) (e : SessionError) :
    a.change (.error e) = .none := by
  cases a <;> rfl

end PacketLog
