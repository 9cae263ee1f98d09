import Mathlib
import PacketLog.Proofs.Session.Effect
import PacketLog.Proofs.Session.Recording

set_option autoImplicit false

/-! # Commands that fail change nothing

A command that fails leaves the session as it was, its transport apart, and if the registry
declines it, the transport is not used either (`command_atomic`). Commands never touch the world
of the handlers (`Session.world_perform`). -/

namespace PacketLog

namespace Session

variable {τ ω α β : Type}

/-! ## The world -/

theorem world_andThen {o : Outcome (Session τ ω) (Except SessionError α)}
    {next : α → Session τ ω → Outcome (Session τ ω) (Except SessionError β)}
    (hnext : ∀ a t, (next a t).state.world = t.world) :
    (o.andThen next).state.world = o.state.world := by
  cases hr : o.result with
  | error e => rw [Outcome.andThen_of_error hr]
  | ok a =>
      rw [Outcome.andThen_of_ok hr]
      exact hnext a o.state

theorem world_onRegistry (s : Session τ ω) (r : Except SessionError (α × Registry (Handler ω))) :
    (s.onRegistry r).state.world = s.world := by
  cases r <;> rfl

theorem world_register (g : UInt16) (s : Session τ ω) : (s.register g).state.world = s.world :=
  calc (s.register g).state.world
      = (s.onRegistry (s.registry.insert g)).state.world := world_andThen fun _ _ => rfl
    _ = s.world := s.world_onRegistry _

variable [Transport τ]

theorem world_command (s : Session τ ω) (c : GroupCommand) :
    (s.command c).state.world = s.world := by
  rw [command]
  split <;> rfl

theorem world_groupCommand (s : Session τ ω) (h : GroupHandle) (c : Command) :
    (s.groupCommand h c).state.world = s.world := by
  cases hl : s.registry.resolve h with
  | error e => rw [groupCommand_of_error hl]
  | ok entry =>
      rw [groupCommand_of_ok hl]
      exact s.world_command _

theorem world_applyCommand (s : Session τ ω) (h : GroupHandle) (c : Command) :
    (s.applyCommand h c).state.world = s.world := by
  cases c with
  | bufferSize bytes =>
      calc (s.setBufferSize h bytes).state.world
          = (s.groupCommand h (.bufferSize bytes)).state.world := world_andThen fun _ _ => rfl
        _ = s.world := s.world_groupCommand h _
  | _ => exact s.world_groupCommand h _

theorem world_applyCommands (h : GroupHandle) (commands : List Command) (s : Session τ ω) :
    (applyCommands h commands s).state.world = s.world := by
  induction commands generalizing s with
  | nil => rfl
  | cons c rest ih =>
      rw [applyCommands]
      calc ((s.applyCommand h c).andThen fun _ s => applyCommands h rest s).state.world
          = (s.applyCommand h c).state.world := world_andThen fun _ t => ih t
        _ = s.world := s.world_applyCommand h c

theorem world_bindGroup (g : UInt16) (s : Session τ ω) :
    (s.bindGroup g).state.world = s.world := by
  rw [bindGroup]
  split
  · rfl
  · exact (world_andThen fun _ t => t.world_register g).trans (s.world_command _)

theorem world_bindGroupWith (g : UInt16) (handler : Handler ω) (s : Session τ ω) :
    (s.bindGroupWith g handler).state.world = s.world :=
  (world_andThen fun _ t => t.world_onRegistry _).trans (s.world_bindGroup g)

theorem world_unbindGroup (h : GroupHandle) (s : Session τ ω) :
    (s.unbindGroup h).state.world = s.world := by
  rw [unbindGroup]
  split
  · rfl
  · exact (world_andThen fun _ t => t.world_onRegistry _).trans (s.world_command _)

/-- **A command leaves the handlers' world alone.** -/
theorem world_perform (s : Session τ ω) {a : Action ω} (ha : a.isCommand = true) :
    (s.perform a).state.world = s.world := by
  cases a with
  | bindGroup g => exact s.world_bindGroup g
  | bindGroupWith g handler => exact s.world_bindGroupWith g handler
  | unbindGroup h => exact s.world_unbindGroup h
  | setCallback h handler => exact s.world_onRegistry _
  | clearCallback h => exact s.world_onRegistry _
  | bindFamily family => exact s.world_command _
  | unbindFamily family => exact s.world_command _
  | setMode h mode range => exact s.world_groupCommand h _
  | setTimeout h n => exact s.world_groupCommand h _
  | setQueueThreshold h n => exact s.world_groupCommand h _
  | setBufferSize h n => exact s.world_applyCommand h (.bufferSize n)
  | setFlags h bits => exact s.world_groupCommand h _
  | applyConfig h config => exact world_applyCommands h _ s
  | handleMessage bytes => cases ha
  | handlePacket bytes => cases ha
  | processNext => cases ha

/-! ## Failures -/

omit [Transport τ] in
/-- Two sessions that agree in all but the transport. -/
theorem eq_of_fields {s t : Session τ ω} (hnumber : t.number = s.number)
    (hregistry : t.registry = s.registry) (hworld : t.world = s.world) :
    t = { s with transport := t.transport } := by
  rw [← hnumber, ← hregistry, ← hworld]

theorem state_of_failed (s : Session τ ω) {a : Action ω} (ha : a.isCommand = true)
    {e : SessionError} (herr : (s.perform a).result = .error e) :
    (s.perform a).state = { s with transport := (s.perform a).state.transport } := by
  have hrecorded := s.perform_recorded a
  have hquiet : Quiet s.recorded (s.recorded.perform a).state := by
    rw [hrecorded, Outcome.result_within] at herr
    exact (failed_perform ha herr).quiet
  refine eq_of_fields ?_ ?_ (s.world_perform ha)
  · rw [hrecorded]
    exact hquiet.number
  · rw [hrecorded]
    exact hquiet.registry

/-- When the registry declines, the transport is not used. -/
theorem untouched_of_isLocal (s : Session τ ω) {a : Action ω} (ha : a.isCommand = true)
    {e : SessionError} (herr : (s.perform a).result = .error e) (he : e.isLocal = true) :
    (s.perform a).state = s ∧ s.usesOf [a] = [] := by
  have hrecorded := s.perform_recorded a
  have huntouched : (s.recorded.perform a).state = s.recorded := by
    rw [hrecorded, Outcome.result_within] at herr
    exact (failed_perform ha herr).untouched he
  constructor
  · rw [hrecorded, Outcome.state_within, huntouched, unrecorded_recorded]
  · have huses : s.usesOf [a] = (s.recorded.perform a).state.transport.uses := rfl
    rw [huses, huntouched]
    rfl

end Session

/-- **A command that fails changes nothing but the transport**, and a bind with a handler either
binds the group to that handler or fails. -/
theorem command_atomic {τ ω : Type} [Transport τ] (s : Session τ ω) :
    (∀ (a : Action ω) (e : SessionError), a.isCommand = true → (s.perform a).result = .error e →
      (s.perform a).state = { s with transport := (s.perform a).state.transport } ∧
        (e.isLocal = true → (s.perform a).state = s ∧ s.usesOf [a] = [])) ∧
      ∀ (g : UInt16) (handler : Handler ω),
        let o := s.bindGroupWith g handler
        (∃ h, o.result = .ok h ∧ s.registry.find? g = none ∧
          o.state.registry.find? g = some { handle := h, handler := some handler }) ∨
          ∃ e, o.result = .error e ∧ o.state = { s with transport := o.state.transport } := by
  constructor
  · intro a e ha herr
    exact ⟨s.state_of_failed ha herr, s.untouched_of_isLocal ha herr⟩
  · intro g handler o
    have hrecorded : o = (s.recorded.bindGroupWith g handler).within Session.unrecorded :=
      (s.recorded.within_bindGroupWith g handler).symm
    rcases s.recorded.settled_bindGroupWith g handler with ⟨e, hfailed⟩ | ⟨hok, heffect⟩
    · have herr : o.result = .error e := by
        rw [hrecorded]
        exact hfailed.result
      refine Or.inr ⟨e, herr, ?_⟩
      refine s.state_of_failed (a := .bindGroupWith g handler) (e := e) rfl ?_
      show o.result.map Response.bound = .error e
      rw [herr]
      rfl
    · refine Or.inl ⟨s.registry.handleOf g, ?_, heffect.allowed, ?_⟩
      · rw [hrecorded]
        exact hok
      · rw [hrecorded]
        exact (heffect.entry g).trans (if_pos rfl)

end PacketLog
