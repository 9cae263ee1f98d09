import Mathlib
import PacketLog.Proofs.Session.Registry
import PacketLog.Session.Basic

set_option autoImplicit false

/-! # Runs of a session

An `Action` is one call of a session's operations with its arguments; `Session.perform` makes
the call, and `Session.performAll` makes calls one after the other. The states that a session
can reach are the states after some list of actions. Sending a bare command is no action: it
goes past the registry. -/

namespace PacketLog

/-- One call of an operation of a session. -/
inductive Action (ω : Type) where
  | bindGroup (group : UInt16)
  | bindGroupWith (group : UInt16) (handler : Handler ω)
  | unbindGroup (handle : GroupHandle)
  | setCallback (handle : GroupHandle) (handler : Handler ω)
  | clearCallback (handle : GroupHandle)
  | bindFamily (family : UInt8)
  | unbindFamily (family : UInt8)
  | setMode (handle : GroupHandle) (mode : CopyMode) (range : UInt32)
  | setTimeout (handle : GroupHandle) (hundredths : UInt32)
  | setQueueThreshold (handle : GroupHandle) (count : UInt32)
  | setBufferSize (handle : GroupHandle) (bytes : UInt32)
  | setFlags (handle : GroupHandle) (bits : UInt16)
  | applyConfig (handle : GroupHandle) (config : GroupConfig)
  | handleMessage (bytes : Bytes)
  | handlePacket (bytes : Bytes)
  | processNext

/-- What a call gives back when it succeeds. -/
inductive Response where
  | done
  /-- The handle of a group that was bound. -/
  | bound (handle : GroupHandle)
  | delivered (delivery : Delivery)
  deriving DecidableEq

/-- Whether the call is a command, that is, anything but a delivery of records. -/
def Action.isCommand {ω : Type} : Action ω → Bool
  | handleMessage _ => false
  | handlePacket _ => false
  | processNext => false
  | _ => true

namespace Session

variable {τ ω : Type} [Transport τ]

/-- Makes a call. -/
def perform (s : Session τ ω) (a : Action ω) :
    Outcome (Session τ ω) (Except SessionError Response) :=
  match a with
  | .bindGroup g => (s.bindGroup g).mapResult (·.map .bound)
  | .bindGroupWith g handler => (s.bindGroupWith g handler).mapResult (·.map .bound)
  | .unbindGroup h => (s.unbindGroup h).mapResult (·.map fun _ => .done)
  | .setCallback h handler => (s.setCallback h handler).mapResult (·.map fun _ => .done)
  | .clearCallback h => (s.clearCallback h).mapResult (·.map fun _ => .done)
  | .bindFamily family => (s.bindFamily family).mapResult (·.map fun _ => .done)
  | .unbindFamily family => (s.unbindFamily family).mapResult (·.map fun _ => .done)
  | .setMode h mode range => (s.setMode h mode range).mapResult (·.map fun _ => .done)
  | .setTimeout h n => (s.setTimeout h n).mapResult (·.map fun _ => .done)
  | .setQueueThreshold h n => (s.setQueueThreshold h n).mapResult (·.map fun _ => .done)
  | .setBufferSize h n => (s.setBufferSize h n).mapResult (·.map fun _ => .done)
  | .setFlags h bits => (s.setFlags h bits).mapResult (·.map fun _ => .done)
  | .applyConfig h config => (s.applyConfig h config).mapResult (·.map fun _ => .done)
  | .handleMessage bytes => (s.handleMessage bytes).mapResult (·.map .delivered)
  | .handlePacket bytes => (s.handlePacket bytes).mapResult (·.map .delivered)
  | .processNext => s.processNext.mapResult (·.map .delivered)

/-- The state after some calls. -/
def performAll (s : Session τ ω) (actions : List (Action ω)) : Session τ ω :=
  actions.foldl (fun s a => (s.perform a).state) s

theorem performAll_append (s : Session τ ω) (before after : List (Action ω)) :
    s.performAll (before ++ after) = (s.performAll before).performAll after :=
  List.foldl_append

theorem performAll_snoc (s : Session τ ω) (before : List (Action ω)) (a : Action ω) :
    s.performAll (before ++ [a]) = ((s.performAll before).perform a).state :=
  s.performAll_append before [a]

/-- **What every call preserves holds of every state that can be reached.** -/
theorem performAll_induction {s : Session τ ω} {motive : Session τ ω → Prop} (start : motive s)
    (step : ∀ (t : Session τ ω) (a : Action ω), motive t → motive (t.perform a).state)
    (actions : List (Action ω)) : motive (s.performAll actions) := by
  induction actions using List.reverseRecOn with
  | nil => exact start
  | append_singleton before a ih =>
      rw [performAll_snoc]
      exact step _ a ih

/-! ## Commands that ask the kernel -/

/-- A command is sent as the message that carries it, and its result is the kernel's verdict. -/
theorem command_eq (s : Session τ ω) {c : GroupCommand} {message : Bytes}
    (h : c.encode = .ok message) :
    (s.command c).result =
        (Transport.request message s.transport).result.mapError .ofTransport ∧
      (s.command c).state =
        { s with transport := (Transport.request message s.transport).state } := by
  rw [command, h]
  exact ⟨rfl, rfl⟩

theorem groupCommand_of_ok {s : Session τ ω} {h : GroupHandle} {e : GroupEntry (Handler ω)}
    (he : s.registry.resolve h = .ok e) (c : Command) :
    s.groupCommand h c = s.command { command := c, group := h.group } := by
  rw [groupCommand, he]

theorem groupCommand_of_error {s : Session τ ω} {h : GroupHandle} {e : SessionError}
    (he : s.registry.resolve h = .error e) (c : Command) :
    s.groupCommand h c = { result := .error e, state := s } := by
  rw [groupCommand, he]

theorem applyCommand_bufferSize (s : Session τ ω) (h : GroupHandle) (bytes : UInt32) :
    s.applyCommand h (.bufferSize bytes) = s.setBufferSize h bytes := rfl

theorem applyCommand_of_error {s : Session τ ω} {h : GroupHandle} {e : SessionError}
    (he : s.registry.resolve h = .error e) (c : Command) :
    s.applyCommand h c = { result := .error e, state := s } := by
  cases c with
  | bufferSize bytes =>
      rw [applyCommand_bufferSize, setBufferSize, groupCommand_of_error he]
      rfl
  | _ => exact groupCommand_of_error he _

omit [Transport τ] in
theorem register_of_absent (s : Session τ ω) {g : UInt16} (h : s.registry.find? g = none) :
    (s.register g).result = .ok (s.registry.handleOf g) ∧
      (s.register g).state = { s with
        registry := { s.registry with
          groups := s.registry.groups.insert g { handle := s.registry.handleOf g } } } := by
  rw [register, Registry.insert_of_absent h]
  exact ⟨rfl, rfl⟩

end Session

end PacketLog
