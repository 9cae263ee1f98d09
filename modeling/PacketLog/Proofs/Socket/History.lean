import Mathlib
import PacketLog.Proofs.Outcome
import PacketLog.Proofs.Socket.Waiting

set_option autoImplicit false

/-! # The history of a socket

A `Socket.History` follows a socket through a run and writes down what can be seen from outside:
the datagrams that came to wait at the kernel, the datagrams that receives returned, and the
requests with what they sent and heard. It also keeps a `Traffic`, in which each datagram that left
the kernel's queue meets its fate. -/

namespace PacketLog

namespace Traffic

/-- A receive: the first datagram that is held back is returned. If there is none, what was read
from the kernel is. -/
def receive (t : Traffic) (read : List Bytes) : Traffic :=
  if those Fate.isPending t = [] then
    t ++ read.map fun d => (d, if d = [] then .ended else .returned)
  else release .returned t

end Traffic

namespace Socket

/-- What can happen to a socket. -/
inductive Step where
  | request (message : Bytes)
  | receive
  | reserve (size : Nat)
  | resize (size : Nat)
  | setTimeout (timeout : Option Duration)
  /-- Something comes to wait at the kernel. -/
  | arrive (a : Arrival)
  /-- The next call that reads is going to fail. -/
  | fail (error : OsError)

/-- A socket with its past. -/
structure History where
  socket : Socket
  /-- The datagrams that came to wait at the kernel. -/
  arrived : List Bytes
  /-- The datagrams that receives returned. -/
  returned : List Bytes := []
  requests : List Request := []
  /-- The datagrams that were read, each with its fate so far. -/
  traffic : Traffic := []

namespace History

/-- A history starts with what waits already. -/
def start (s : Socket) : History := { socket := s, arrived := s.kernel.waiting }

/-- The socket's kernel with another queue. -/
def requeue (h : History) (change : List Arrival → List Arrival) : History :=
  { h with socket := { h.socket with
      kernel := { h.socket.kernel with queue := change h.socket.kernel.queue } } }

/-- One step of a run. -/
def step (h : History) : Step → History
  | .request message =>
    let s := h.socket
    let o := s.request message
    { h with
      socket := o.state
      arrived := h.arrived ++ s.arrivals message
      requests := h.requests ++ [
        { seq := s.nextSeq, message, sent := Event.sends o.events
          heard := s.heard message, result := o.result }]
      traffic := (s.heard message).foldl (Traffic.hear s.nextSeq) h.traffic }
  | .receive =>
    let o := h.socket.receive
    let read := taken h.socket.kernel.waiting o.state.kernel.waiting
    { h with
      socket := o.state
      returned := h.returned ++ o.result.toOption.toList
      traffic := h.traffic.receive read }
  | .reserve size => { h with socket := (h.socket.reserveMessageSize size).state }
  | .resize size => { h with socket := (h.socket.setReceiveBufferSize size).state }
  | .setTimeout timeout => { h with socket := (h.socket.setReadTimeout timeout).state }
  | .arrive a => { h.requeue (· ++ [a]) with arrived := h.arrived ++ a.bytes?.toList }
  | .fail e => h.requeue (.failure e :: ·)

/-- A run, one step after the other. -/
def run (steps : List Step) (h : History) : History := steps.foldl step h

/-- **What one step preserves, a run preserves.** -/
theorem run_induction {motive : History → Prop} {h : History} (start : motive h)
    (step : ∀ h x, motive h → motive (h.step x)) (steps : List Step) : motive (h.run steps) := by
  induction steps generalizing h with
  | nil => exact start
  | cons x steps ih => exact ih (step h x start)

end History

/-! ## Steps without traffic -/

/-- Nothing has been sent or received between `s` and `t`. -/
structure Undisturbed (s t : Socket) : Prop where
  pending : t.pending = s.pending
  nextSeq : t.nextSeq = s.nextSeq
  waiting : t.kernel.waiting = s.kernel.waiting

namespace Undisturbed

theorem refl (s : Socket) : Undisturbed s s := ⟨rfl, rfl, rfl⟩

theorem trans {s t u : Socket} (h : Undisturbed s t) (h' : Undisturbed t u) : Undisturbed s u :=
  ⟨h'.pending.trans h.pending, h'.nextSeq.trans h.nextSeq, h'.waiting.trans h.waiting⟩

theorem andThen {ε α β : Type} {s : Socket} {o : Outcome Socket (Except ε α)}
    {next : α → Socket → Outcome Socket (Except ε β)} (h : Undisturbed s o.state)
    (hnext : ∀ a t, Undisturbed t (next a t).state) : Undisturbed s (o.andThen next).state := by
  cases hresult : o.result with
  | error e =>
      rw [Outcome.andThen_of_error hresult]
      exact h
  | ok a =>
      rw [Outcome.andThen_of_ok hresult]
      exact h.trans (hnext a o.state)

end Undisturbed

theorem waiting_attempt (k : Kernel) (call : KernelCall) (error : Option OsError) {after : Kernel}
    (h : after.waiting = k.waiting) : (k.attempt call error after).state.waiting = k.waiting := by
  unfold Kernel.attempt
  split
  · rfl
  · exact h

theorem undisturbed_onKernel {α : Type} {s : Socket} {o : Outcome Kernel (Except OsError α)}
    (h : o.state.waiting = s.kernel.waiting) : Undisturbed s (s.onKernel o).state :=
  ⟨rfl, rfl, h⟩

theorem undisturbed_setReceiveBufferSize (size : Nat) (s : Socket) :
    Undisturbed s (s.setReceiveBufferSize size).state := by
  have hset (force : Bool) (n : Nat) (k : Kernel) :
      (k.setBufferSize force n).state.waiting = k.waiting := waiting_attempt k _ _ rfl
  refine Undisturbed.andThen ?_ fun _ t => ?_
  · split
    · exact undisturbed_onKernel (hset _ _ _)
    · exact undisturbed_onKernel ((hset _ _ _).trans (hset _ _ _))
  · dsimp only
    split <;> exact Undisturbed.refl t

theorem undisturbed_setReadTimeout (timeout : Option Duration) (s : Socket) :
    Undisturbed s (s.setReadTimeout timeout).state :=
  Undisturbed.andThen (undisturbed_onKernel (waiting_attempt _ _ _ rfl)) fun _ _ => ⟨rfl, rfl, rfl⟩

theorem undisturbed_configure (s : Socket) : Undisturbed s s.configure.state := by
  refine Undisturbed.andThen ?_ fun _ t => ?_
  · split
    · exact Undisturbed.refl s
    · exact undisturbed_setReceiveBufferSize _ s
  · split
    · exact Undisturbed.refl t
    · exact undisturbed_setReadTimeout _ t

/-- A socket that was just opened holds nothing back, and its first number is the seed. -/
theorem fresh_of_open {kernel : Kernel} {config : SocketConfig} {seed : UInt32} {s : Socket}
    (h : (Socket.open kernel config seed).result = .ok s) : s.pending = [] ∧ s.nextSeq = seed := by
  obtain ⟨-, created, -, h, -⟩ := Outcome.exists_of_andThen h
  obtain ⟨-, bound, -, h, -⟩ := Outcome.exists_of_andThen h
  dsimp only at h
  split at h
  · cases h
  · cases h
    have hconfigured := undisturbed_configure
      { kernel := bound, address := bound.address, nextSeq := seed, config }
    exact ⟨hconfigured.pending, hconfigured.nextSeq⟩

end Socket

end PacketLog
