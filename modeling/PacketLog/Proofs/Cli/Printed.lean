import Mathlib
import PacketLog.Cli.Run
import PacketLog.Proofs.Session.Dispatch

set_option autoImplicit false

/-! # What is printed

A run prints texts among its other events (`Event.prints`). A socket never does, and a session does
not print by itself: its commands only note and ask the kernel (`Outcome.Silent`). So everything
that is printed is printed by the handlers of records, or by `decode`. -/

namespace PacketLog

/-! ## The printed texts among the events -/

namespace Event

/-- The text that an event prints. -/
def printed? : Event → Option String
  | printed text => some text
  | _ => none

/-- The texts that are printed, in order. -/
def prints (events : List Event) : List String := events.filterMap printed?

@[simp] theorem prints_append (events later : List Event) :
    prints (events ++ later) = prints events ++ prints later :=
  List.filterMap_append

end Event

namespace Outcome

variable {σ τ ε α β : Type}

/-- **Nothing is printed.** -/
def Silent (o : Outcome σ α) : Prop := Event.prints o.events = []

theorem Silent.after {o : Outcome σ α} (h : o.Silent) {earlier : List Event}
    (hearlier : Event.prints earlier = []) : (o.after earlier).Silent := by
  rw [Silent, events_after, Event.prints_append, hearlier, h, List.nil_append]

theorem Silent.andThen {o : Outcome σ (Except ε α)} {next : α → σ → Outcome σ (Except ε β)}
    (h : o.Silent) (hnext : ∀ a s, (next a s).Silent) : (o.andThen next).Silent := by
  cases hresult : o.result with
  | error e =>
      rw [andThen_of_error hresult]
      exact h
  | ok a =>
      rw [andThen_of_ok hresult]
      exact (hnext a o.state).after h

end Outcome

/-! ## Sockets -/

namespace Kernel

theorem silent_attempt (k : Kernel) (call : KernelCall) (error : Option OsError) (after : Kernel) :
    (k.attempt call error after).Silent := by
  unfold attempt
  split <;> rfl

theorem silent_send (bytes : Bytes) (k : Kernel) : (k.send bytes).Silent := by
  unfold send
  split <;> rfl

theorem silent_peek (k : Kernel) : k.peek.Silent := by
  unfold peek
  split <;> rfl

theorem silent_read (room : Nat) (k : Kernel) : (k.read room).Silent := by
  unfold read
  split <;> rfl

end Kernel

namespace Socket

theorem silent_readErrorEvents (e : OsError) : Event.prints (readErrorEvents e) = [] := by
  unfold readErrorEvents
  split <;> rfl

theorem silent_peekLength (k : Kernel) : (peekLength k).Silent := by
  -- along the interrupted calls
  fun_induction peekLength k with
  | case1 k o n h => exact k.silent_peek
  | case2 k o h ih => exact ih.after k.silent_peek
  | case3 k o e h hne =>
      rw [Outcome.Silent, Event.prints_append, silent_readErrorEvents, List.append_nil]
      exact k.silent_peek

theorem silent_readDatagram (room : Nat) (k : Kernel) : (readDatagram room k).Silent := by
  fun_induction readDatagram room k with
  | case1 k o bytes h => exact k.silent_read room
  | case2 k o h ih => exact ih.after (k.silent_read room)
  | case3 k o e h hne =>
      rw [Outcome.Silent, Event.prints_append, silent_readErrorEvents, List.append_nil]
      exact k.silent_read room

theorem silent_receiveDatagram (s : Socket) : s.receiveDatagram.Silent := by
  refine Outcome.Silent.andThen (silent_peekLength s.kernel) fun len t => ?_
  refine Outcome.Silent.after (o := (readDatagram _ t.kernel).within _) ?_ ?_
  · exact silent_readDatagram _ t.kernel
  · split <;> rfl

theorem silent_keep (datagram : Bytes) (s : Socket) : (s.keep datagram).Silent := by
  unfold keep
  split <;> rfl

theorem silent_awaitVerdict (seq : UInt32) (s : Socket) : (s.awaitVerdict seq).Silent := by
  -- along the datagrams that are read: the first four cases end the wait, the others go on
  fun_induction awaitVerdict seq s with
  | case1 s o e h => exact s.silent_receiveDatagram
  | case2 s o d h e hfound => exact s.silent_receiveDatagram
  | case3 s o d h hfound => exact s.silent_receiveDatagram
  | case4 s o d h code hfound =>
      rw [Outcome.Silent, Event.prints_append]
      exact List.append_eq_nil_iff.mpr ⟨s.silent_receiveDatagram, rfl⟩
  | case5 s o d h got hfound ih =>
      refine ih.after ?_
      rw [Event.prints_append]
      exact List.append_eq_nil_iff.mpr ⟨s.silent_receiveDatagram, rfl⟩
  | case6 s o d h hfound kept ih =>
      refine ih.after ?_
      rw [Event.prints_append]
      exact List.append_eq_nil_iff.mpr ⟨s.silent_receiveDatagram, silent_keep d o.state⟩

theorem silent_sendMessage (bytes : Bytes) (k : Kernel) : (sendMessage bytes k).Silent := by
  fun_induction sendMessage bytes k with
  | case1 k o u h => exact k.silent_send bytes
  | case2 k o h ih => exact ih.after (k.silent_send bytes)
  | case3 k o e h hne => exact k.silent_send bytes

theorem silent_request (message : Bytes) (s : Socket) : (s.request message).Silent := by
  unfold request
  dsimp only
  split
  · rfl
  · exact Outcome.Silent.andThen (silent_sendMessage _ s.kernel) fun _ t =>
      (t.silent_awaitVerdict _).after rfl

theorem silent_receive (s : Socket) : s.receive.Silent := by
  unfold receive
  split
  · rfl
  · exact s.silent_receiveDatagram

theorem silent_setReceiveBufferSize (size : Nat) (s : Socket) :
    (s.setReceiveBufferSize size).Silent := by
  refine Outcome.Silent.andThen ?_ fun _ t => ?_
  · split
    · exact s.kernel.silent_attempt _ _ _
    · refine Outcome.Silent.after ?_ ?_
      · exact Kernel.silent_attempt _ _ _ _
      · rw [Event.prints_append]
        exact List.append_eq_nil_iff.mpr ⟨s.kernel.silent_attempt _ _ _, rfl⟩
  · dsimp only
    split
    · rfl
    · dsimp only [Outcome.Silent]
      split <;> rfl

theorem silent_setReadTimeout (timeout : Option Duration) (s : Socket) :
    (s.setReadTimeout timeout).Silent :=
  Outcome.Silent.andThen (s.kernel.silent_attempt _ _ _) fun _ _ => rfl

theorem silent_configure (s : Socket) : s.configure.Silent := by
  refine Outcome.Silent.andThen ?_ fun _ t => ?_
  · split
    · rfl
    · exact silent_setReceiveBufferSize _ s
  · split
    · rfl
    · exact silent_setReadTimeout _ t

theorem silent_open (kernel : Kernel) (config : SocketConfig) (seed : UInt32) :
    (Socket.open kernel config seed).Silent := by
  refine Outcome.Silent.andThen (kernel.silent_attempt _ _ _) fun _ created => ?_
  refine Outcome.Silent.andThen (created.silent_attempt _ _ _) fun _ bound => ?_
  have hconfigure := silent_configure
    { kernel := bound, address := bound.address, nextSeq := seed, config }
  dsimp only
  split
  · exact hconfigure
  · rw [Outcome.Silent, Event.prints_append]
    exact List.append_eq_nil_iff.mpr ⟨hconfigure, rfl⟩

end Socket

/-! ## Sessions -/

/-- A transport that prints nothing. -/
structure Transport.Silent (τ : Type) [Transport τ] : Prop where
  request : ∀ (message : Bytes) (t : τ), (Transport.request message t).Silent
  receive : ∀ t : τ, (Transport.receive t).Silent
  setReceiveBufferSize : ∀ (size : Nat) (t : τ), (Transport.setReceiveBufferSize size t).Silent
  reserveMessageSize : ∀ (size : Nat) (t : τ), (Transport.reserveMessageSize size t).Silent

theorem Socket.silent : Transport.Silent Socket where
  request := silent_request
  receive := silent_receive
  setReceiveBufferSize := silent_setReceiveBufferSize
  reserveMessageSize _ _ := rfl

namespace Transport.Silent

variable {τ ω α : Type} [Transport τ] (hτ : Transport.Silent τ)
include hτ

theorem command (c : GroupCommand) (s : Session τ ω) : (s.command c).Silent := by
  unfold Session.command
  split
  · rfl
  · refine Outcome.Silent.after ?_ rfl
    exact hτ.request _ s.transport

theorem groupCommand (h : GroupHandle) (c : Command) (s : Session τ ω) :
    (s.groupCommand h c).Silent := by
  unfold Session.groupCommand
  split
  · rfl
  · exact hτ.command _ s

theorem growTransport (h : GroupHandle) (bytes : UInt32) (s : Session τ ω) :
    (s.growTransport h bytes).Silent := by
  rw [Outcome.Silent, Session.growTransport, Event.prints_append, Event.prints_append]
  refine List.append_eq_nil_iff.mpr ⟨List.append_eq_nil_iff.mpr ⟨?_, ?_⟩, ?_⟩
  · exact hτ.reserveMessageSize _ s.transport
  · exact hτ.setReceiveBufferSize _ _
  · split <;> rfl

theorem applyCommand (h : GroupHandle) (c : Command) (s : Session τ ω) :
    (s.applyCommand h c).Silent := by
  unfold Session.applyCommand
  split
  · exact (hτ.groupCommand h _ s).andThen fun _ t => hτ.growTransport h _ t
  · exact hτ.groupCommand h _ s

theorem applyCommands (h : GroupHandle) (commands : List Command) (s : Session τ ω) :
    (Session.applyCommands h commands s).Silent := by
  induction commands generalizing s with
  | nil => rfl
  | cons c rest ih => exact (hτ.applyCommand h c s).andThen fun _ t => ih t

omit hτ [Transport τ] in
theorem onRegistry (s : Session τ ω) (r : Except SessionError (α × Registry (Handler ω))) :
    (s.onRegistry r).Silent := by
  cases r <;> rfl

theorem bindGroup (g : UInt16) (s : Session τ ω) : (s.bindGroup g).Silent := by
  unfold Session.bindGroup
  split
  · rfl
  · refine (hτ.command _ s).andThen fun _ t => ?_
    exact (onRegistry t _).andThen fun _ _ => rfl

theorem bindGroupWith (g : UInt16) (handler : Handler ω) (s : Session τ ω) :
    (s.bindGroupWith g handler).Silent :=
  (hτ.bindGroup g s).andThen fun _ t => onRegistry t _

end Transport.Silent

/-- Reading a record prints nothing. -/
theorem LogRecord.prints_parseEvents (attrs : Bytes) :
    Event.prints (LogRecord.parseEvents attrs) = [] := by
  rw [parseEvents, Event.prints, List.filterMap_map]
  exact List.filterMap_eq_nil_iff.mpr fun _ _ => rfl

/-! ## Reports -/

namespace Cli

/-- The printed texts stand on lines of their own. -/
theorem Report.output_eq (r : Report) :
    r.output = String.join ((Event.prints r.events).map (· ++ "\n")) := by
  rw [Report.output]
  induction r.events with
  | nil => rfl
  | cons e events ih =>
      rw [List.map_cons, String.join_cons, ih]
      cases e with
      | printed text => exact String.join_cons.symm
      | note n => exact String.empty_append
      | call c => exact String.empty_append

/-- A report leaves out notes alone. -/
theorem filterMap_filter_isKept {α : Type} {f : Event → Option α} (hf : ∀ n, f (.note n) = none)
    (level : Level) (events : List Event) :
    (events.filter (isKept level)).filterMap f = events.filterMap f := by
  rw [List.filterMap_filter]
  refine List.filterMap_congr fun e _ => ?_
  cases e with
  | printed text => rfl
  | note n => rw [hf, ite_self]
  | call c => rfl

theorem Invocation.prints_run (env : Environment) (i : Invocation) :
    Event.prints (i.run env).events = Event.prints (i.command.run env i.format).events := by
  unfold Invocation.run
  dsimp only
  split <;> exact filterMap_filter_isKept (fun _ => rfl) _ _

theorem Invocation.calls_run (env : Environment) (i : Invocation) :
    Event.calls (i.run env).events = Event.calls (i.command.run env i.format).events := by
  unfold Invocation.run
  dsimp only
  split <;> exact filterMap_filter_isKept (fun _ => rfl) _ _

end Cli

end PacketLog
