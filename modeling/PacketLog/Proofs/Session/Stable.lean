import Mathlib
import PacketLog.Proofs.Session.Acknowledged
import PacketLog.Proofs.Session.Dispatch

set_option autoImplicit false

/-! # What holds of a transport for good

A session touches its transport through the transport's own operations only. So what each of them
preserves (`Transport.Stable`), every call of a session preserves (`Transport.Stable.perform`). -/

namespace PacketLog

/-- A property of transports that none of their operations ends. -/
structure Transport.Stable {τ : Type} [Transport τ] (P : τ → Prop) : Prop where
  request : ∀ {t : τ} (message : Bytes), P t → P (Transport.request message t).state
  receive : ∀ {t : τ}, P t → P (Transport.receive t).state
  setReceiveBufferSize : ∀ {t : τ} (size : Nat), P t →
    P (Transport.setReceiveBufferSize size t).state
  reserveMessageSize : ∀ {t : τ} (size : Nat), P t →
    P (Transport.reserveMessageSize size t).state

namespace Transport.Stable

variable {τ ω ε α β : Type} {P : τ → Prop}

/-- What holds of the transport after one step, and is preserved by the next, holds after both. -/
theorem andThen {o : Outcome (Session τ ω) (Except ε α)}
    {next : α → Session τ ω → Outcome (Session τ ω) (Except ε β)} (h : P o.state.transport)
    (hnext : ∀ a t, P t.transport → P (next a t).state.transport) :
    P (o.andThen next).state.transport := by
  cases hresult : o.result with
  | error e =>
      rw [Outcome.andThen_of_error hresult]
      exact h
  | ok a =>
      rw [Outcome.andThen_of_ok hresult]
      exact hnext a o.state h

theorem onRegistry {s : Session τ ω} (h : P s.transport)
    (r : Except SessionError (α × Registry (Handler ω))) :
    P (s.onRegistry r).state.transport := by
  cases r <;> exact h

variable [Transport τ]

theorem command (hP : Stable P) {s : Session τ ω} (h : P s.transport) (c : GroupCommand) :
    P (s.command c).state.transport := by
  rw [(s.command_eq c.encode_eq).2]
  exact hP.request _ h

theorem groupCommand (hP : Stable P) {s : Session τ ω} (h : P s.transport) (k : GroupHandle)
    (c : Command) : P (s.groupCommand k c).state.transport := by
  rw [Session.groupCommand]
  split
  · exact h
  · exact hP.command h _

theorem growTransport (hP : Stable P) {s : Session τ ω} (h : P s.transport) (k : GroupHandle)
    (n : UInt32) : P (s.growTransport k n).state.transport :=
  hP.setReceiveBufferSize _ (hP.reserveMessageSize _ h)

theorem applyCommand (hP : Stable P) {s : Session τ ω} (h : P s.transport) (k : GroupHandle)
    (c : Command) : P (s.applyCommand k c).state.transport := by
  cases c with
  | bufferSize n =>
      exact andThen (hP.groupCommand h k _) fun _ _ ht => hP.growTransport ht k n
  | _ => exact hP.groupCommand h k _

theorem applyCommands (hP : Stable P) (k : GroupHandle) (commands : List Command)
    {s : Session τ ω} (h : P s.transport) :
    P (Session.applyCommands k commands s).state.transport := by
  induction commands generalizing s with
  | nil => exact h
  | cons c rest ih => exact andThen (hP.applyCommand h k c) fun _ _ ht => ih ht

theorem bindGroup (hP : Stable P) {s : Session τ ω} (h : P s.transport) (g : UInt16) :
    P (s.bindGroup g).state.transport := by
  rw [Session.bindGroup]
  split
  · exact h
  · refine andThen (hP.command h _) fun _ t ht => ?_
    exact andThen (onRegistry ht _) fun _ _ ht' => ht'

theorem processNext (hP : Stable P) {s : Session τ ω} (h : P s.transport) :
    P s.processNext.state.transport := by
  refine andThen (hP.receive h) fun bytes t ht => ?_
  have hsame := t.transport_handlePacket bytes
  exact hsame.symm ▸ ht

/-- **What every operation of the transport preserves, every call of a session preserves.** -/
theorem perform (hP : Stable P) {s : Session τ ω} (h : P s.transport) (a : Action ω) :
    P (s.perform a).state.transport := by
  cases a with
  | bindGroup g => exact hP.bindGroup h g
  | bindGroupWith g handler => exact andThen (hP.bindGroup h g) fun _ _ ht => onRegistry ht _
  | unbindGroup k =>
      simp only [Session.perform, Outcome.state_mapResult, Session.unbindGroup]
      split
      · exact h
      · exact andThen (hP.command h _) fun _ _ ht => onRegistry ht _
  | setCallback k handler => exact onRegistry h _
  | clearCallback k => exact onRegistry h _
  | bindFamily family => exact hP.command h _
  | unbindFamily family => exact hP.command h _
  | setMode k mode range => exact hP.groupCommand h k _
  | setTimeout k n => exact hP.groupCommand h k _
  | setQueueThreshold k n => exact hP.groupCommand h k _
  | setBufferSize k n => exact hP.applyCommand h k (.bufferSize n)
  | setFlags k bits => exact hP.groupCommand h k _
  | applyConfig k config => exact hP.applyCommands k config.commands h
  | handleMessage bytes =>
      have hsame : (s.handleMessage bytes).state.transport = s.transport := by
        rw [Session.state_handleMessage]
      exact hsame.symm ▸ h
  | handlePacket bytes =>
      have hsame := s.transport_handlePacket bytes
      exact hsame.symm ▸ h
  | processNext => exact hP.processNext h

end Transport.Stable

end PacketLog
