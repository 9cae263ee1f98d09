import Mathlib
import PacketLog.Transport.Basic

set_option autoImplicit false

/-! # Transports that keep a log

A `Recorded` transport works like the transport inside it and writes down every use of it with
its answer. A session over a recorded transport is an ordinary session, whose log says what was
sent and what the kernel answered. -/

namespace PacketLog

/-- One use of a transport, with its answer. -/
inductive TransportUse where
  | request (message : Bytes) (verdict : Except TransportError Unit)
  | receive (answer : Except TransportError Bytes)
  | setReceiveBufferSize (size : Nat) (answer : Except TransportError Nat)
  | reserveMessageSize (size : Nat)

/-- A transport with a log of its uses, the first one first. -/
structure Recorded (τ : Type) where
  transport : τ
  uses : List TransportUse := []

namespace Recorded

variable {τ : Type}

/-- The recorded transport after one more use. -/
def record {α : Type} (t : Recorded τ) (o : Outcome τ α) (use : α → TransportUse) :
    Outcome (Recorded τ) α :=
  o.within fun inner => { transport := inner, uses := t.uses ++ [use o.result] }

instance [Transport τ] : Transport (Recorded τ) where
  request message t := t.record (Transport.request message t.transport) (.request message)
  receive t := t.record (Transport.receive t.transport) .receive
  setReceiveBufferSize size t :=
    t.record (Transport.setReceiveBufferSize size t.transport) (.setReceiveBufferSize size)
  reserveMessageSize size t :=
    t.record (Transport.reserveMessageSize size t.transport) fun _ => .reserveMessageSize size

/-- The log is no part of what can still be received. -/
instance [FiniteTransport τ] : FiniteTransport (Recorded τ) where
  remaining t := FiniteTransport.remaining t.transport
  remaining_receive_ok {t _} h := FiniteTransport.remaining_receive_ok (t := t.transport) h
  remaining_receive_transient {t _} h he :=
    FiniteTransport.remaining_receive_transient (t := t.transport) h he

variable [Transport τ]

theorem uses_request (message : Bytes) (t : Recorded τ) :
    (Transport.request message t).state.uses =
      t.uses ++ [.request message (Transport.request message t).result] := rfl

theorem uses_receive (t : Recorded τ) :
    (Transport.receive t).state.uses = t.uses ++ [.receive (Transport.receive t).result] := rfl

theorem uses_setReceiveBufferSize (size : Nat) (t : Recorded τ) :
    (Transport.setReceiveBufferSize size t).state.uses =
      t.uses ++ [.setReceiveBufferSize size (Transport.setReceiveBufferSize size t).result] := rfl

theorem uses_reserveMessageSize (size : Nat) (t : Recorded τ) :
    (Transport.reserveMessageSize size t).state.uses =
      t.uses ++ [.reserveMessageSize size] := rfl

end Recorded

end PacketLog
