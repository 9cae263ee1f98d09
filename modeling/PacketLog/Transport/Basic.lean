import PacketLog.Journal
import PacketLog.Transport.Error

set_option autoImplicit false

/-! # Transports

A transport carries requests to the kernel, each of them answered, and brings back what the
kernel sends. `Transport` says what it can do on states of a type; `FiniteTransport` adds a
bound on how much it can still bring, so that receiving until the end is a recursion. -/

namespace PacketLog

/-- What a connection to the kernel can do. -/
class Transport (τ : Type) where
  /-- Sends a request and waits for the kernel's verdict on it. -/
  request : Bytes → τ → Outcome τ (Except TransportError Unit)
  /-- The next batch of messages from the kernel. -/
  receive : τ → Outcome τ (Except TransportError Bytes)
  /-- Asks for room for as many bytes between two receives, and says how much there is. -/
  setReceiveBufferSize : Nat → τ → Outcome τ (Except TransportError Nat)
  /-- Makes sure that one receive can hold as many bytes. -/
  reserveMessageSize : Nat → τ → Outcome τ Unit

/-- A transport that does not bring batches forever. -/
class FiniteTransport (τ : Type) extends Transport τ where
  /-- A bound on what can still be received. -/
  remaining : τ → Nat
  /-- A received batch uses up some of it. -/
  remaining_receive_ok : ∀ {t : τ} {bytes : Bytes},
    (Transport.receive t).result = .ok bytes → remaining (Transport.receive t).state < remaining t
  /-- So does an error after which there may be more to receive. -/
  remaining_receive_transient : ∀ {t : τ} {e : TransportError},
    (Transport.receive t).result = .error e → e.isTransient = true →
      remaining (Transport.receive t).state < remaining t

/-- A transport that is used through a reference to it. -/
structure Boxed (τ : Type) where
  inner : τ

namespace Boxed

variable {τ α : Type}

/-- What the transport behind the reference did. -/
def passOn (o : Outcome τ α) : Outcome (Boxed τ) α := o.within mk

/-- Every use is passed on to the transport behind the reference. -/
instance [Transport τ] : Transport (Boxed τ) where
  request message t := passOn (Transport.request message t.inner)
  receive t := passOn (Transport.receive t.inner)
  setReceiveBufferSize size t := passOn (Transport.setReceiveBufferSize size t.inner)
  reserveMessageSize size t := passOn (Transport.reserveMessageSize size t.inner)

instance [FiniteTransport τ] : FiniteTransport (Boxed τ) where
  remaining t := FiniteTransport.remaining t.inner
  remaining_receive_ok {t _} h := FiniteTransport.remaining_receive_ok (t := t.inner) h
  remaining_receive_transient {t _} h he :=
    FiniteTransport.remaining_receive_transient (t := t.inner) h he

end Boxed

end PacketLog
