import Mathlib
import PacketLog.Proofs.Session.Rebinding
import PacketLog.Transport.Scripted

set_option autoImplicit false

/-! # Dead handles

A handle is dead for a session that did not issue it, and while its group is not bound
(`Session.Dead`). Every call with a dead handle fails without asking the kernel
(`dead_handle_rejected`), except that a configuration that sets nothing is applied by no command, so
that nobody looks at the handle (`empty_config_accepted_for_dead_handle`). -/

namespace PacketLog

namespace Session

variable {τ ω : Type}

/-- Whether a handle stands for no bound group of the session. -/
def Dead (s : Session τ ω) (h : GroupHandle) : Prop :=
  h.session ≠ s.number ∨ h.group ∉ s.groupList

/-- Why a dead handle is declined. -/
def refusalOf (s : Session τ ω) (h : GroupHandle) : SessionError :=
  if h.session = s.number then .unknownGroup h.group else .staleHandle

/-- The registry of a session declines the dead handles. -/
theorem Owned.resolve_of_dead {s : Session τ ω} (hs : s.Owned) {h : GroupHandle}
    (hdead : s.Dead h) : s.registry.resolve h = .error (s.refusalOf h) := by
  rw [refusalOf, ← hs.session]
  by_cases hsession : h.session = s.registry.session
  · have hgroup : h.group ∉ s.registry.groupList :=
      hdead.resolve_left (not_not.mpr (hsession.trans hs.session))
    have hnone : s.registry.find? h.group = none := by
      rw [Registry.mem_groupList, Bool.not_eq_true, Option.isSome_eq_false_iff,
        Option.isNone_iff_eq_none] at hgroup
      exact hgroup
    rw [if_pos hsession, Registry.resolve_of_unbound hsession hnone]
  · rw [if_neg hsession, Registry.resolve_of_foreign hsession]

variable [Transport τ]

/-- However a session goes on, its registry stays its own. -/
theorem Goes.owned {allowed : Step ω → Prop} {s t : Session τ ω} (ht : Goes allowed s t)
    (hs : s.Owned) : t.Owned := by
  induction ht with
  | refl => exact hs
  | call a _ _ ih => exact ih.perform a
  | send c _ ih => exact ih.command c
  | touch _ _ ih => exact ih.of_registry rfl rfl

/-- A configuration that sets nothing is applied without a look at the handle. -/
theorem perform_applyConfig_empty (s : Session τ ω) (h : GroupHandle) :
    s.perform (.applyConfig h {}) = { result := .ok .done, state := s } := rfl

end Session

open Session in
/-- **A dead handle is good for nothing**, in every state that a session can reach: a call with it
fails with the reason why it is dead, sends nothing and changes nothing. So does the application of
a configuration, if and only if there is something in it to apply. -/
theorem dead_handle_rejected {τ ω : Type} [Transport τ] (numbers : SessionNumbers) (t : τ) (w : ω)
    (s : Session τ ω) (hs : Goes (fun _ => True) (Session.start numbers t w).1 s)
    (h : GroupHandle) (hdead : s.Dead h) :
    (∀ a : Action ω, a.handle? = some h →
        s.perform a = { result := .error (s.refusalOf h), state := s } ∧ s.usesOf [a] = []) ∧
      ∀ config : GroupConfig,
        let a : Action ω := .applyConfig h config
        (s.perform a).result = (if config = {} then .ok .done else .error (s.refusalOf h)) ∧
          (s.perform a).state = s ∧ s.usesOf [a] = [] := by
  have howned := hs.owned (Owned.start numbers t w)
  have hresolve := howned.resolve_of_dead hdead
  have hcalls (a : Action ω) (ha : a.handle? = some h) :
      s.perform a = { result := .error (s.refusalOf h), state := s } ∧ s.usesOf [a] = [] :=
    ⟨perform_of_error ha hresolve, usesOf_of_error ha hresolve⟩
  refine ⟨hcalls, ?_⟩
  intro config a
  by_cases hempty : config = {}
  · subst hempty
    have hnothing := s.perform_applyConfig_empty h
    rw [hnothing, if_pos rfl]
    exact ⟨rfl, rfl, rfl⟩
  · obtain ⟨hperform, huses⟩ := hcalls a (if_neg hempty)
    rw [hperform, if_neg hempty]
    exact ⟨rfl, rfl, huses⟩

/-- A group is bound and unbound: its handle cannot be configured. -/
theorem unbound_handle_not_configured :
    let h : GroupHandle := { session := 1, group := 5 }
    let bound := (Session.start {} ({} : ScriptedTransport) ()).1.perform (.bindGroup 5)
    let s := (bound.state.perform (.unbindGroup h)).state
    let a : Action Unit := .applyConfig h { timeout := some 100 }
    bound.result = .ok (.bound h) ∧ s.Dead h ∧
      (s.perform a).result = .error (.unknownGroup 5) ∧ s.usesOf [a] = [] := by
  intro h bound s a
  have hdead : s.Dead h := Or.inr (by decide +kernel)
  have hreached : Session.Goes (fun _ => True)
      (Session.start {} ({} : ScriptedTransport) ()).1 s :=
    .call (.unbindGroup h) (.call (.bindGroup 5) .refl trivial) trivial
  obtain ⟨hresult, -, huses⟩ :=
    (dead_handle_rejected {} {} () s hreached h hdead).2 { timeout := some 100 }
  exact ⟨by decide +kernel, hdead, by decide +kernel, huses⟩

/-- A configuration that sets nothing is applied with success for the handle of a group that is not
bound any more, and for the handle of another session. -/
theorem empty_config_accepted_for_dead_handle :
    let h : GroupHandle := { session := 1, group := 5 }
    let bound := ((Session.start {} ({} : ScriptedTransport) ()).1.perform (.bindGroup 5)).state
    let unbound := (bound.perform (.unbindGroup h)).state
    let other : Session ScriptedTransport Unit := (Session.start { next := 2 } {} ()).1
    bound.find? 5 = some h ∧ unbound.Dead h ∧ other.Dead h ∧
      (unbound.perform (.applyConfig h {})).result = .ok .done ∧
      (other.perform (.applyConfig h {})).result = .ok .done := by
  intro h bound unbound other
  have hunbound := congrArg Outcome.result (unbound.perform_applyConfig_empty h)
  have hother := congrArg Outcome.result (other.perform_applyConfig_empty h)
  exact ⟨by decide +kernel, Or.inr (by decide +kernel), Or.inl (by decide), hunbound, hother⟩

end PacketLog
