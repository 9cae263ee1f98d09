import Mathlib
import PacketLog.Proofs.Session.Action
import PacketLog.Proofs.Session.Dispatch
import PacketLog.Proofs.Transport.Recorded

set_option autoImplicit false

/-! # Recording changes nothing

Every call gives the same outcome over a transport and over its recorded form, the log apart
(`Session.within_perform`). So what is proved of sessions over a recorded transport holds of
sessions over any transport, and the log shows what they do with it. -/

namespace PacketLog

namespace Outcome

variable {σ τ ε α β : Type} {place : σ → τ}

/-- Two steps seen on a larger state are the two steps, each seen on the larger state. -/
theorem within_andThen {o : Outcome σ (Except ε α)} {next : α → σ → Outcome σ (Except ε β)}
    {next' : α → τ → Outcome τ (Except ε β)}
    (h : ∀ a s, (next a s).within place = next' a (place s)) :
    (o.andThen next).within place = (o.within place).andThen next' := by
  cases hr : o.result with
  | error e =>
      have hr' : (o.within place).result = .error e := hr
      rw [andThen_of_error hr, andThen_of_error hr']
      rfl
  | ok a =>
      have hr' : (o.within place).result = .ok a := hr
      rw [andThen_of_ok hr, andThen_of_ok hr', state_within, ← h]
      rfl

theorem within_mapResult {o : Outcome σ α} {o' : Outcome τ α} (h : o.within place = o')
    (f : α → β) : (o.mapResult f).within place = o'.mapResult f := by
  rw [← h]
  rfl

end Outcome

namespace Session

variable {τ ω α : Type}

/-- The session with an empty log. -/
def recorded (s : Session τ ω) : Session (Recorded τ) ω :=
  { number := s.number, transport := { transport := s.transport }, registry := s.registry
    world := s.world }

/-- The session without the log. -/
def unrecorded (s : Session (Recorded τ) ω) : Session τ ω :=
  { number := s.number, transport := s.transport.transport, registry := s.registry
    world := s.world }

theorem unrecorded_recorded (s : Session τ ω) : s.recorded.unrecorded = s := rfl

theorem within_onRegistry (s : Session (Recorded τ) ω)
    (r : Except SessionError (α × Registry (Handler ω))) :
    (s.onRegistry r).within unrecorded = s.unrecorded.onRegistry r := by
  cases r <;> rfl

/-! ## Deliveries -/

/-- What leaves the transport alone is seen without the log as it is over the inner transport. -/
theorem within_unrecorded {s : Session (Recorded τ) ω} {o : Outcome (Session (Recorded τ) ω) α}
    (h : o.state.transport = s.transport) :
    o.within unrecorded = o.within (·.withTransport s.transport.transport) := by
  have hstate : o.state.unrecorded = o.state.withTransport s.transport.transport := by
    rw [← h]
    rfl
  rw [Outcome.within, Outcome.within, hstate]

theorem within_deliver (items : List (Except WireError Message)) (s : Session (Recorded τ) ω) :
    (deliver items s).within unrecorded = deliver items s.unrecorded :=
  (within_unrecorded (transport_deliver items s)).trans (deliver_withTransport items s _).symm

theorem within_handleMessage (s : Session (Recorded τ) ω) (bytes : Bytes) :
    (s.handleMessage bytes).within unrecorded = s.unrecorded.handleMessage bytes := by
  have htransport : (s.handleMessage bytes).state.transport = s.transport := by
    rw [state_handleMessage]
  exact (within_unrecorded htransport).trans (handleMessage_withTransport bytes s _).symm

/-! ## Commands -/

variable [Transport τ]

theorem within_processNext (s : Session (Recorded τ) ω) :
    s.processNext.within unrecorded = s.unrecorded.processNext :=
  Outcome.within_andThen fun _ s => within_deliver _ s

theorem within_command (s : Session (Recorded τ) ω) (c : GroupCommand) :
    (s.command c).within unrecorded = s.unrecorded.command c := by
  simp only [command]
  split <;> rfl

theorem within_groupCommand (s : Session (Recorded τ) ω) (h : GroupHandle) (c : Command) :
    (s.groupCommand h c).within unrecorded = s.unrecorded.groupCommand h c := by
  have hregistry : s.unrecorded.registry = s.registry := rfl
  simp only [groupCommand, ← within_command, hregistry]
  split <;> rfl

theorem within_applyCommand (s : Session (Recorded τ) ω) (h : GroupHandle) (c : Command) :
    (s.applyCommand h c).within unrecorded = s.unrecorded.applyCommand h c := by
  cases c with
  | bufferSize bytes =>
      rw [applyCommand_bufferSize, applyCommand_bufferSize, setBufferSize, setBufferSize,
        ← within_groupCommand]
      exact Outcome.within_andThen fun _ s => rfl
  | _ => exact s.within_groupCommand h _

theorem within_applyCommands (h : GroupHandle) (commands : List Command)
    (s : Session (Recorded τ) ω) :
    (applyCommands h commands s).within unrecorded = applyCommands h commands s.unrecorded := by
  induction commands generalizing s with
  | nil => rfl
  | cons c rest ih =>
      rw [applyCommands, applyCommands, ← within_applyCommand]
      exact Outcome.within_andThen fun _ s => ih s

theorem within_bindGroup (s : Session (Recorded τ) ω) (g : UInt16) :
    (s.bindGroup g).within unrecorded = s.unrecorded.bindGroup g := by
  have hregistry : s.unrecorded.registry = s.registry := rfl
  simp only [bindGroup, hregistry]
  split
  · rfl
  · rw [← within_command]
    refine Outcome.within_andThen fun _ s => ?_
    rw [register, register, ← s.within_onRegistry]
    exact Outcome.within_andThen fun _ s => rfl

theorem within_bindGroupWith (s : Session (Recorded τ) ω) (g : UInt16) (handler : Handler ω) :
    (s.bindGroupWith g handler).within unrecorded = s.unrecorded.bindGroupWith g handler := by
  rw [bindGroupWith, bindGroupWith, ← within_bindGroup]
  exact Outcome.within_andThen fun _ s => s.within_onRegistry _

theorem within_unbindGroup (s : Session (Recorded τ) ω) (h : GroupHandle) :
    (s.unbindGroup h).within unrecorded = s.unrecorded.unbindGroup h := by
  have hregistry : s.unrecorded.registry = s.registry := rfl
  simp only [unbindGroup, hregistry]
  split
  · rfl
  · rw [← within_command]
    exact Outcome.within_andThen fun _ s => s.within_onRegistry _

/-- **A call over a recorded transport is the call over the transport**, and its uses are
recorded. -/
theorem within_perform (s : Session (Recorded τ) ω) (a : Action ω) :
    (s.perform a).within unrecorded = s.unrecorded.perform a := by
  cases a with
  | bindGroup g => exact Outcome.within_mapResult (s.within_bindGroup g) _
  | bindGroupWith g handler => exact Outcome.within_mapResult (s.within_bindGroupWith g handler) _
  | unbindGroup h => exact Outcome.within_mapResult (s.within_unbindGroup h) _
  | setCallback h handler => exact Outcome.within_mapResult (s.within_onRegistry _) _
  | clearCallback h => exact Outcome.within_mapResult (s.within_onRegistry _) _
  | bindFamily family => exact Outcome.within_mapResult (s.within_command _) _
  | unbindFamily family => exact Outcome.within_mapResult (s.within_command _) _
  | setMode h mode range => exact Outcome.within_mapResult (s.within_groupCommand h _) _
  | setTimeout h n => exact Outcome.within_mapResult (s.within_groupCommand h _) _
  | setQueueThreshold h n => exact Outcome.within_mapResult (s.within_groupCommand h _) _
  | setBufferSize h n =>
      exact Outcome.within_mapResult (s.within_applyCommand h (.bufferSize n)) _
  | setFlags h bits => exact Outcome.within_mapResult (s.within_groupCommand h _) _
  | applyConfig h config => exact Outcome.within_mapResult (within_applyCommands h _ s) _
  | handleMessage bytes => exact Outcome.within_mapResult (s.within_handleMessage bytes) _
  | handlePacket bytes => exact Outcome.within_mapResult (within_deliver _ s) _
  | processNext => exact Outcome.within_mapResult s.within_processNext _

theorem perform_recorded (s : Session τ ω) (a : Action ω) :
    s.perform a = (s.recorded.perform a).within unrecorded :=
  (s.recorded.within_perform a).symm

/-! ## Runs -/

/-- The uses of the transport in a run. -/
def usesOf (s : Session τ ω) (actions : List (Action ω)) : List TransportUse :=
  (s.recorded.performAll actions).transport.uses

theorem unrecorded_performAll (s : Session (Recorded τ) ω) (actions : List (Action ω)) :
    (s.performAll actions).unrecorded = s.unrecorded.performAll actions := by
  induction actions using List.reverseRecOn with
  | nil => rfl
  | append_singleton before a ih =>
      rw [performAll_snoc, performAll_snoc, ← ih, ← within_perform]
      rfl

/-- A run and its recorded form end with the same registry. -/
theorem registry_performAll_recorded (s : Session τ ω) (actions : List (Action ω)) :
    (s.recorded.performAll actions).registry = (s.performAll actions).registry := by
  have h := s.recorded.unrecorded_performAll actions
  exact congrArg registry h

theorem number_performAll_recorded (s : Session τ ω) (actions : List (Action ω)) :
    (s.recorded.performAll actions).number = (s.performAll actions).number := by
  have h := s.recorded.unrecorded_performAll actions
  exact congrArg number h

end Session

end PacketLog
