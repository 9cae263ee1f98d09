import Mathlib
import PacketLog.Proofs.Session.Effect
import PacketLog.Proofs.Session.Recording

set_option autoImplicit false

/-! # Handles

A call that is made with a handle (`Action.handle?`) asks the registry first, and does nothing at
all when the registry declines (`Session.perform_of_error`). A session only ever keeps handles with
its own number (`Session.Owned`). -/

namespace PacketLog

/-- A configuration is applied by no command if it sets nothing. -/
theorem GroupConfig.commands_eq_nil_iff {config : GroupConfig} :
    config.commands = [] ↔ config = {} := by
  constructor
  · intro h
    obtain ⟨copyMode, copyRange, timeout, queueThreshold, bufferSize, flags⟩ := config
    simp only [commands, modeCommand, List.append_eq_nil_iff, Option.toList_eq_nil_iff,
      Option.map_eq_none_iff] at h
    obtain ⟨⟨⟨⟨hmode, rfl⟩, rfl⟩, rfl⟩, rfl⟩ := h
    split at hmode
    · cases hmode
    · rename_i hunset
      rw [Bool.not_eq_true, Bool.or_eq_false_iff, Option.isSome_eq_false_iff,
        Option.isSome_eq_false_iff, Option.isNone_iff_eq_none, Option.isNone_iff_eq_none] at hunset
      rw [hunset.1, hunset.2]
  · rintro rfl
    rfl

/-- The handle that a call is made with. A configuration that sets nothing is applied without
asking for the group. -/
def Action.handle? {ω : Type} : Action ω → Option GroupHandle
  | unbindGroup h => some h
  | setCallback h _ => some h
  | clearCallback h => some h
  | setMode h _ _ => some h
  | setTimeout h _ => some h
  | setQueueThreshold h _ => some h
  | setBufferSize h _ => some h
  | setFlags h _ => some h
  | applyConfig h config => if config = {} then none else some h
  | _ => none

namespace Session

variable {τ ω : Type}

section Declined

variable [Transport τ] {s : Session τ ω} {h : GroupHandle} {e : SessionError}

theorem applyCommands_of_error (he : s.registry.resolve h = .error e) {commands : List Command}
    (hne : commands ≠ []) :
    applyCommands h commands s = { result := .error e, state := s } := by
  cases commands with
  | nil => exact absurd rfl hne
  | cons c rest =>
      rw [applyCommands, applyCommand_of_error he]
      rfl

/-- **A call with a handle that the registry declines does nothing**: it fails with the registry's
error, and the session stays as it is. -/
theorem perform_of_error {a : Action ω} (ha : a.handle? = some h)
    (he : s.registry.resolve h = .error e) :
    s.perform a = { result := .error e, state := s } := by
  have hset (handler : Option (Handler ω)) : s.registry.setHandler h handler = .error e :=
    Registry.setHandler_of_error he handler
  cases a with
  | unbindGroup k =>
      cases ha
      simp only [perform, unbindGroup, he]
      rfl
  | setCallback k handler =>
      cases ha
      simp only [perform, setCallback, hset]
      rfl
  | clearCallback k =>
      cases ha
      simp only [perform, clearCallback, hset]
      rfl
  | setMode k mode range =>
      cases ha
      simp only [perform, setMode, groupCommand_of_error he]
      rfl
  | setTimeout k n =>
      cases ha
      simp only [perform, setTimeout, groupCommand_of_error he]
      rfl
  | setQueueThreshold k n =>
      cases ha
      simp only [perform, setQueueThreshold, groupCommand_of_error he]
      rfl
  | setBufferSize k n =>
      cases ha
      simp only [perform, ← applyCommand_bufferSize, applyCommand_of_error he]
      rfl
  | setFlags k bits =>
      cases ha
      simp only [perform, setFlags, groupCommand_of_error he]
      rfl
  | applyConfig k config =>
      rw [Action.handle?] at ha
      split_ifs at ha with hunset
      cases ha
      have hne : config.commands ≠ [] := fun h => hunset (GroupConfig.commands_eq_nil_iff.mp h)
      simp only [perform, applyConfig, applyCommands_of_error he hne]
      rfl
  | _ => cases ha

/-- Nor does it use the transport. -/
theorem usesOf_of_error {a : Action ω} (ha : a.handle? = some h)
    (he : s.registry.resolve h = .error e) : s.usesOf [a] = [] := by
  have hrecorded : s.recorded.perform a = { result := .error e, state := s.recorded } :=
    perform_of_error ha he
  have huses : s.usesOf [a] = (s.recorded.perform a).state.transport.uses := rfl
  rw [huses, hrecorded]
  rfl

end Declined

/-! ## Handles of a session -/

/-- The registry is the session's own: each group is under the handle with the session's number. -/
structure Owned (s : Session τ ω) : Prop where
  session : s.registry.session = s.number
  handle : ∀ (g : UInt16) (e : GroupEntry (Handler ω)),
    s.registry.find? g = some e → e.handle = ⟨s.number, g⟩

namespace Owned

theorem start (numbers : SessionNumbers) (t : τ) (w : ω) : Owned (Session.start numbers t w).1 := by
  refine ⟨rfl, fun g e he => ?_⟩
  have hnone : (Session.start numbers t w).1.registry.find? g = none := Registry.find?_new _ g
  rw [hnone] at he
  cases he

/-- The transport and the world have no part in it. -/
theorem of_registry {s t : Session τ ω} (h : Owned s) (hnumber : t.number = s.number)
    (hregistry : t.registry = s.registry) : Owned t := by
  refine ⟨?_, fun g e he => ?_⟩
  · rw [hregistry, hnumber, h.session]
  · rw [hregistry] at he
    rw [hnumber]
    exact h.handle g e he

/-- **Whatever changes the registry enters its own handles only.** -/
theorem of_effect {s t : Session (Recorded τ) ω} {c : Change (Handler ω)} (h : Owned s)
    (he : Effect s t c) : Owned t := by
  refine ⟨by rw [he.session, he.number, h.session], fun g e hentry => ?_⟩
  rw [he.entry] at hentry
  rw [he.number, ← h.session]
  refine Change.handle_of_entry (fun e' he' => ?_) hentry
  rw [h.session]
  exact h.handle g e' he'

variable [Transport τ]

/-- Every call keeps the registry the session's own. -/
theorem perform {s : Session τ ω} (h : Owned s) (a : Action ω) : Owned (s.perform a).state := by
  have hrecorded : Owned s.recorded := ⟨h.session, h.handle⟩
  have hstep := hrecorded.of_effect (s.recorded.effect_perform a)
  rw [perform_recorded]
  exact ⟨hstep.session, hstep.handle⟩

/-- So does a bare command, which goes past the registry. -/
theorem command {s : Session τ ω} (h : Owned s) (c : GroupCommand) :
    Owned (s.command c).state := by
  have hstate := (s.command_eq c.encode_eq).2
  exact h.of_registry (by rw [hstate]) (by rw [hstate])

end Owned

variable [Transport τ]

theorem number_perform (s : Session τ ω) (a : Action ω) :
    (s.perform a).state.number = s.number := by
  rw [perform_recorded]
  exact (s.recorded.effect_perform a).number

theorem session_perform (s : Session τ ω) (a : Action ω) :
    (s.perform a).state.registry.session = s.registry.session := by
  rw [perform_recorded]
  exact (s.recorded.effect_perform a).session

end Session

end PacketLog
