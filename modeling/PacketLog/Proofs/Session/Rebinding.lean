import Mathlib
import PacketLog.Proofs.Session.Handles
import PacketLog.Proofs.Session.History
import PacketLog.Transport.Scripted

set_option autoImplicit false

/-! # The end of a binding

A handle names a session and a group, so a group that is bound again has the handle that it had
before. Between the two bindings the handle is dead: neither the registry nor the session does
anything for it (`ended_handle_dead_until_rebound`). Once the group is bound again, the old handle
stands for the new binding (`rebound_group_revives_handle`).

The argument is the same for a registry and for a session: nothing changes the session that a
registry belongs to, and only a bind of a group enters it (`Registry.find?_apply_of_absent`,
`Session.find?_perform_of_absent`). -/

namespace PacketLog

/-! ## Runs of a registry -/

/-- One call that may change a registry. -/
inductive RegistryCall (η : Type) where
  | insert (group : UInt16)
  | remove (handle : GroupHandle)
  | setHandler (handle : GroupHandle) (handler : Option η)
  | clear

namespace Registry

variable {η : Type}

/-- The registry after a call; one that fails changes nothing. -/
def apply (r : Registry η) : RegistryCall η → Registry η
  | .insert g =>
    match r.insert g with
    | .ok (_, r') => r'
    | .error _ => r
  | .remove h =>
    match r.remove h with
    | .ok (_, r') => r'
    | .error _ => r
  | .setHandler h handler =>
    match r.setHandler h handler with
    | .ok r' => r'
    | .error _ => r
  | .clear => r.clear

/-- The registry after some calls. -/
def applyAll (r : Registry η) (calls : List (RegistryCall η)) : Registry η := calls.foldl apply r

theorem apply_remove_of_ok {r : Registry η} {h : GroupHandle} {e : GroupEntry η}
    (he : r.resolve h = .ok e) :
    r.apply (.remove h) = { r with groups := r.groups.erase h.group } := by
  rw [apply, remove_of_ok he]

theorem find?_clear (r : Registry η) (g : UInt16) : r.clear.find? g = none :=
  Std.TreeMap.getElem?_emptyc

/-- No call changes the session that a registry belongs to. -/
theorem session_apply (r : Registry η) (c : RegistryCall η) : (r.apply c).session = r.session := by
  cases c with
  | insert g =>
      cases hf : r.find? g with
      | none => rw [apply, insert_of_absent hf]
      | some e => rw [apply, insert, hf]
  | remove h =>
      cases hl : r.resolve h with
      | ok e => rw [apply_remove_of_ok hl]
      | error e => rw [apply, remove_of_error hl]
  | setHandler h handler =>
      cases hl : r.resolve h with
      | ok e => rw [apply, setHandler_of_ok hl]
      | error e => rw [apply, setHandler_of_error hl]
  | clear => rfl

/-- **Only an insertion of a group binds it.** -/
theorem find?_apply_of_absent {r : Registry η} {g : UInt16} (hg : r.find? g = none)
    {c : RegistryCall η} (hc : c ≠ .insert g) : (r.apply c).find? g = none := by
  cases c with
  | insert k =>
      have hkg : k ≠ g := fun h => hc (h ▸ rfl)
      cases hf : r.find? k with
      | none =>
          rw [apply, insert_of_absent hf]
          exact (find?_put r k _ g).trans ((if_neg hkg).trans hg)
      | some e =>
          rw [apply, insert, hf]
          exact hg
  | remove h =>
      cases hl : r.resolve h with
      | ok e =>
          rw [apply_remove_of_ok hl, find?_erase, hg, ite_self]
      | error e =>
          rw [apply, remove_of_error hl]
          exact hg
  | setHandler h handler =>
      cases hl : r.resolve h with
      | ok e =>
          -- the handle is live, so its group is another one
          have hhg : h.group ≠ g := by
            intro heq
            rw [← heq, (resolve_eq_ok_iff.mp hl).2] at hg
            cases hg
          rw [apply, setHandler_of_ok hl]
          exact (find?_put r h.group _ g).trans ((if_neg hhg).trans hg)
      | error e =>
          rw [apply, setHandler_of_error hl]
          exact hg
  | clear => exact r.find?_clear g

theorem session_applyAll (r : Registry η) (calls : List (RegistryCall η)) :
    (r.applyAll calls).session = r.session := by
  induction calls generalizing r with
  | nil => rfl
  | cons c rest ih => exact (ih (r.apply c)).trans (r.session_apply c)

/-- A group stays unbound until it is inserted. -/
theorem find?_applyAll_of_absent {r : Registry η} {g : UInt16} (hg : r.find? g = none)
    {calls : List (RegistryCall η)} (hcalls : .insert g ∉ calls) :
    (r.applyAll calls).find? g = none := by
  induction calls generalizing r with
  | nil => exact hg
  | cons c rest ih =>
      have hc : c ≠ .insert g := fun h => hcalls (h ▸ List.mem_cons_self)
      exact ih (find?_apply_of_absent hg hc) fun h => hcalls (List.mem_cons_of_mem c h)

/-- The end of the binding behind a live handle leaves the handle's group unbound. -/
theorem find?_apply_of_ending {r : Registry η} {h : GroupHandle} {e : GroupEntry η}
    (he : r.resolve h = .ok e) {c : RegistryCall η} (hc : c = .remove h ∨ c = .clear) :
    (r.apply c).find? h.group = none := by
  rcases hc with rfl | rfl
  · rw [apply_remove_of_ok he, find?_erase, if_pos rfl]
  · exact r.find?_clear h.group

/-- The handle of a group is the same each time the group is bound. -/
theorem eq_of_insert {r r' : Registry η} {h k : GroupHandle} (hs : h.session = r.session)
    (hk : r.insert h.group = .ok (k, r')) : k = h := by
  cases hf : r.find? h.group with
  | none =>
      rw [insert_of_absent hf] at hk
      cases hk
      rw [handleOf, ← hs]
  | some e =>
      rw [insert, hf] at hk
      cases hk

/-- The registry does nothing for a handle. -/
structure Rejects (r : Registry η) (h : GroupHandle) (e : SessionError) : Prop where
  resolve : r.resolve h = .error e
  remove : r.remove h = .error e
  setHandler : ∀ handler, r.setHandler h handler = .error e

/-- A handle of the registry's session is dead while its group is not bound. -/
theorem rejects_of_unbound {r : Registry η} {h : GroupHandle} (hs : h.session = r.session)
    (hf : r.find? h.group = none) : r.Rejects h (.unknownGroup h.group) := by
  have hresolve := resolve_of_unbound hs hf
  exact ⟨hresolve, remove_of_error hresolve, fun handler => setHandler_of_error hresolve handler⟩

end Registry

/-! ## Runs of a session -/

namespace Session

variable {τ ω : Type} [Transport τ]

/-- How a session goes on: by calls whose steps are allowed, by bare commands, and by what is done
to its transport behind its back. -/
inductive Goes (allowed : Step ω → Prop) (s : Session τ ω) : Session τ ω → Prop where
  | refl : Goes allowed s s
  | call {t : Session τ ω} (a : Action ω) :
      Goes allowed s t → allowed (t.step a) → Goes allowed s (t.perform a).state
  | send {t : Session τ ω} (c : GroupCommand) :
      Goes allowed s t → Goes allowed s (t.command c).state
  | touch {t : Session τ ω} (transport : τ) :
      Goes allowed s t → Goes allowed s { t with transport }

theorem registry_command (s : Session τ ω) (c : GroupCommand) :
    (s.command c).state.registry = s.registry := by
  rw [(s.command_eq c.encode_eq).2]

/-- **Only a bind of a group enters it.** -/
theorem find?_perform_of_absent {s : Session τ ω} {g : UInt16} (hg : s.registry.find? g = none)
    {a : Action ω} (ha : ∀ h, ¬ (s.step a).Binds g h) :
    (s.perform a).state.registry.find? g = none := by
  rw [find?_perform, hg]
  cases hc : s.changeOf a with
  | none => rfl
  | bound k f =>
      have hkg : k ≠ g := by
        rintro rfl
        exact ha _ (binds_step_iff.mpr ⟨⟨f, hc⟩, rfl⟩)
      exact if_neg hkg
  | ended k => exact ite_self _
  | handed k f => exact ite_self _

/-- The kernel's acknowledgement of the unbind leaves the group unbound. -/
theorem find?_perform_of_ends {s : Session τ ω} {g : UInt16} {a : Action ω}
    (ha : (s.step a).Ends g) : (s.perform a).state.registry.find? g = none := by
  rw [find?_perform, ends_step_iff.mp ha]
  exact if_pos rfl

namespace Goes

variable {allowed : Step ω → Prop} {s t : Session τ ω}

theorem session (ht : Goes allowed s t) : t.registry.session = s.registry.session := by
  induction ht with
  | refl => rfl
  | call a _ _ ih => rw [session_perform, ih]
  | send c _ ih => rw [registry_command, ih]
  | touch _ _ ih => exact ih

/-- A group stays unbound until it is bound. -/
theorem find?_of_absent {g : UInt16} (hg : s.registry.find? g = none)
    (ht : Goes (fun x => ∀ h, ¬ x.Binds g h) s t) : t.registry.find? g = none := by
  induction ht with
  | refl => exact hg
  | call a _ ha ih => exact find?_perform_of_absent ih ha
  | send c _ ih => rw [registry_command, ih]
  | touch _ _ ih => exact ih

end Goes

/-- The session does nothing for a handle: a call with it fails, does not use the transport, and
changes nothing. -/
structure Rejects (s : Session τ ω) (h : GroupHandle) (e : SessionError) : Prop where
  registry : s.registry.Rejects h e
  perform : ∀ a : Action ω, a.handle? = some h → s.perform a = { result := .error e, state := s }
  usesOf : ∀ a : Action ω, a.handle? = some h → s.usesOf [a] = []

theorem rejects_of_unbound {s : Session τ ω} {h : GroupHandle}
    (hs : h.session = s.registry.session) (hf : s.registry.find? h.group = none) :
    s.Rejects h (.unknownGroup h.group) := by
  have hresolve := Registry.resolve_of_unbound hs hf
  exact ⟨Registry.rejects_of_unbound hs hf, fun a ha => perform_of_error ha hresolve,
    fun a ha => usesOf_of_error ha hresolve⟩

end Session

/-- **A handle is dead from the end of its binding until its group is bound again.** In a registry
the binding ends when the handle is removed or all groups are dropped, in a session when the kernel
acknowledges the unbind. From then on the registry declines the handle, and every call with it
fails, sends nothing and changes nothing, until the group is bound again in the same session. A
bind of the group gives the same handle out, so while the group is bound again, the handle stands
for the new binding. -/
theorem ended_handle_dead_until_rebound {τ ω η : Type} [Transport τ] :
    (∀ (r : Registry η) (h : GroupHandle) (e : GroupEntry η) (c : RegistryCall η),
      r.resolve h = .ok e → c = .remove h ∨ c = .clear → ∀ later : List (RegistryCall η),
        let t := (r.apply c).applyAll later
        (.insert h.group ∉ later → t.Rejects h (.unknownGroup h.group)) ∧
          (∀ k t', t.insert h.group = .ok (k, t') → k = h) ∧
          ∀ e', t.find? h.group = some e' → t.resolve h = .ok e') ∧
      ∀ (s : Session τ ω) (h : GroupHandle) (e : GroupEntry (Handler ω)) (a : Action ω),
        s.registry.resolve h = .ok e → (s.step a).Ends h.group →
          (∀ t, Session.Goes (fun x => ∀ k, ¬ x.Binds h.group k) (s.perform a).state t →
            t.Rejects h (.unknownGroup h.group)) ∧
          ∀ t, Session.Goes (fun _ => True) (s.perform a).state t →
            (∀ b k, (t.step b).Binds h.group k → k = h) ∧
              ∀ e', t.registry.find? h.group = some e' → t.registry.resolve h = .ok e' := by
  -- on both levels the session stays that of the handle, so only the group's entry matters
  constructor
  case left =>
    intro r h e c he hc later t
    have hs : h.session = t.session := by
      rw [Registry.session_applyAll, Registry.session_apply, (Registry.resolve_eq_ok_iff.mp he).1]
    have hgone := Registry.find?_apply_of_ending he hc
    exact ⟨fun hlater =>
        Registry.rejects_of_unbound hs (Registry.find?_applyAll_of_absent hgone hlater),
      fun k t' hk => Registry.eq_of_insert hs hk,
      fun e' he' => Registry.resolve_eq_ok_iff.mpr ⟨hs, he'⟩⟩
  case right =>
    intro s h e a he ha
    have hs (allowed : Step ω → Prop) (t : Session τ ω)
        (ht : Session.Goes allowed (s.perform a).state t) : h.session = t.registry.session := by
      rw [ht.session, Session.session_perform, (Registry.resolve_eq_ok_iff.mp he).1]
    refine ⟨fun t ht => ?_, fun t ht => ⟨fun b k hk => ?_, fun e' he' => ?_⟩⟩
    · have hgone := Session.find?_perform_of_ends ha
      exact Session.rejects_of_unbound (hs _ t ht) (ht.find?_of_absent hgone)
    · rw [(Session.binds_step_iff.mp hk).2, Registry.handleOf, ← hs _ t ht]
    · exact Registry.resolve_eq_ok_iff.mpr ⟨hs _ t ht, he'⟩

/-- A group is bound and unbound, and another one is bound then: the first handle is dead, in the
session and in a registry. -/
theorem unbound_handle_is_rejected :
    let h : GroupHandle := { session := 1, group := 5 }
    let first := (Session.start {} ({} : ScriptedTransport) ()).1.perform (.bindGroup 5)
    let ended := (first.state.perform (.unbindGroup h)).state
    let later := (ended.perform (.bindGroup 6)).state
    let r : Registry Unit := (Registry.new 1).apply (.insert 5)
    first.result = .ok (.bound h) ∧ (first.state.step (.unbindGroup h)).Ends 5 ∧
      later.groupList = [6] ∧ later.transport.sent.length = 3 ∧
      later.Rejects h (.unknownGroup 5) ∧
      (r.applyAll [.clear, .insert 6]).Rejects h (.unknownGroup 5) := by
  intro h first ended later r
  have hends : (first.state.step (.unbindGroup h)).Ends 5 := by
    rw [Step.Ends]
    decide +kernel
  -- the bind of the other group is no bind of this one
  have hother : ∀ k, ¬ (ended.step (.bindGroup 6)).Binds 5 k := by
    rintro k ⟨hack, -⟩
    exact absurd hack (by decide +kernel)
  obtain ⟨hregistry, hsession⟩ :=
    ended_handle_dead_until_rebound (τ := ScriptedTransport) (ω := Unit) (η := Unit)
  have hdead := (hregistry r h { handle := h } .clear rfl (Or.inr rfl) [.insert 6]).1 (by simp [h])
  have hrejects := (hsession first.state h { handle := h } (.unbindGroup h) rfl hends).1 later
    (.call (.bindGroup 6) .refl hother)
  exact ⟨by decide +kernel, hends, by decide +kernel, by decide +kernel, hrejects, hdead⟩

/-- A group is bound, unbound and bound again: the first handle is the second one, and a command is
sent for it. A registry finds the new entry under the old handle as well. -/
theorem rebound_group_revives_handle :
    let h : GroupHandle := { session := 1, group := 5 }
    let first := (Session.start {} ({} : ScriptedTransport) ()).1.perform (.bindGroup 5)
    let ended := first.state.perform (.unbindGroup h)
    let rebound := ended.state.perform (.bindGroup 5)
    let used := rebound.state.perform (.setTimeout h 100)
    let r : Registry Unit := (Registry.new 1).applyAll [.insert 5, .remove h, .insert 5]
    first.result = .ok (.bound h) ∧ ended.result = .ok .done ∧ rebound.result = .ok (.bound h) ∧
      used.result = .ok .done ∧ rebound.state.transport.sent.length = 3 ∧
      used.state.transport.sent.length = 4 ∧ (r.resolve h).map GroupEntry.handle = .ok h := by
  decide +kernel +zetaReduce

end PacketLog
