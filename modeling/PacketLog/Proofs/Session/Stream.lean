import Mathlib
import PacketLog.Proofs.Session.Run

set_option autoImplicit false

/-! # Running to the end of the traffic

Over a transport that brings a finite stream (`Streams`) every run comes to an end
(`Session.Runs.exists_of_streams`), whatever the handlers do. It takes entries off the front of the
stream and leaves the others (`Session.Runs.takes`), so that another run goes on with them
(`run_consumes_stream`). -/

namespace PacketLog

/-- A transport brings the entries of a stream, each of them once, and then nothing more. -/
structure Streams {τ : Type} [Transport τ] (stream : τ → List (Except TransportError Bytes)) :
    Prop where
  receive : ∀ t, (Transport.receive t).result = (stream t).headD (.error .closed)
  tail : ∀ t, stream (Transport.receive t).state = (stream t).tail

theorem headD_begins {α : Type} (entries : List α) (last : α) :
    [entries.headD last] <+: entries ++ [last] := by
  cases entries with
  | nil => exact List.prefix_refl _
  | cons first rest => exact ⟨rest ++ [last], rfl⟩

namespace Session

variable {τ ω : Type}

namespace Runs

variable [Transport τ] {s final : Session τ ω} {batches : List Bytes}
  {last : Except TransportError Bytes} {r : Except SessionError Int32}
  {stream : τ → List (Except TransportError Bytes)}

/-- **Over a finite stream every run comes to an end.** -/
theorem exists_of_streams (hstream : Streams stream) (s : Session τ ω) :
    ∃ batches last final r, Runs s batches last final r := by
  induction hentries : stream s.transport generalizing s with
  | nil =>
      have hclosed := hstream.receive s.transport
      rw [hentries] at hclosed
      exact ⟨_, _, _, _, .broken hclosed⟩
  | cons item rest ih =>
      have hitem := hstream.receive s.transport
      rw [hentries] at hitem
      cases item with
      | error e => exact ⟨_, _, _, _, .broken hitem⟩
      | ok bytes =>
          rcases endOf_cases (s.received.handlePacket bytes).result with hcontinue | ⟨r, hend⟩
          · -- the delivery has left the transport behind the receive
            have hrest : stream (s.received.handlePacket bytes).state.transport = rest := by
              rw [transport_handlePacket]
              refine (hstream.tail s.transport).trans ?_
              rw [hentries, List.tail_cons]
            obtain ⟨batches, last, final, r, hruns⟩ := ih _ hrest
            exact ⟨_, _, _, _, .goesOn hitem hcontinue hruns⟩
          · exact ⟨_, _, _, _, .ended hitem hend⟩

/-- **A run takes entries off the front of the stream**, and leaves the others. -/
theorem takes (h : Runs s batches last final r) (hstream : Streams stream) :
    receipts batches last <+: stream s.transport ++ [.error .closed] ∧
      stream final.transport = (stream s.transport).drop (batches.length + 1) := by
  induction h with
  | @broken s e hreceive =>
      have hfirst := (hstream.receive s.transport).symm.trans hreceive
      refine ⟨?_, (hstream.tail s.transport).trans List.drop_one.symm⟩
      rw [← hfirst]
      exact headD_begins _ _
  | @ended s bytes r hreceive hend =>
      have hfirst := (hstream.receive s.transport).symm.trans hreceive
      rw [transport_handlePacket, ← hfirst]
      exact ⟨headD_begins _ _, (hstream.tail s.transport).trans List.drop_one.symm⟩
  | @goesOn s final bytes batches last r hreceive hcontinue rest ih =>
      have hfirst := (hstream.receive s.transport).symm.trans hreceive
      obtain ⟨htaken, hleft⟩ := ih
      rw [transport_handlePacket] at htaken hleft
      have htail : stream s.received.transport = (stream s.transport).tail :=
        hstream.tail s.transport
      rw [htail] at htaken hleft
      cases hentries : stream s.transport with
      | nil =>
          rw [hentries] at hfirst
          cases hfirst
      | cons item rest =>
          rw [hentries, List.headD_cons] at hfirst
          rw [hentries, List.tail_cons] at htaken hleft
          refine ⟨?_, hleft⟩
          rw [hfirst]
          exact List.prefix_cons_inj _ |>.mpr htaken

end Runs

/-- The calls that the handlers get in a run. -/
def callsOfRun [FiniteTransport τ] (s : Session τ ω) : List (HandlerCall ω) :=
  s.watched.run.state.world.calls

/-- What a run does with the stream of its transport, if it goes on after some batches and receives
`last` behind them. The run over the recorded transport shows what is received, and the run with
watched handlers which of them are called. -/
structure Consumes [FiniteTransport τ] (stream : τ → List (Except TransportError Bytes))
    (s : Session τ ω) (batches : List Bytes) (last : Except TransportError Bytes) : Prop where
  /-- The loop ends after at most one round for each entry and one for the end. -/
  rounds : s.runFor ((stream s.transport).length + 1) = some s.run
  /-- Entries are received in order, and then the end. -/
  receipts : receipts batches last <+: stream s.transport ++ [.error .closed]
  /-- The run makes these receives and uses the transport for nothing else. -/
  uses : s.recorded.run.state.transport.uses = (Session.receipts batches last).map .receive
  recorded : s.recorded.run.state.unrecorded = s.run.state ∧ s.recorded.run.result = s.run.result
  /-- What was not received is still there. -/
  left : stream s.run.state.transport = (stream s.transport).drop (batches.length + 1)
  watched : s.watched.run.state = s.run.state.watched s.callsOfRun ∧
    s.watched.run.result = s.run.result
  /-- The handlers are called as they are for the batches one after another. -/
  delivered : s.watched.run.state.world =
    (handlePackets (batches ++ last.toOption.toList) s.watched).state.world
  /-- Nothing halts the delivery of the batches before the last one, and nothing in them fails. -/
  earlier : (handlePackets batches s.watched).result = .ok .continue
  /-- The run succeeds with the first negative answer of a handler. -/
  halted : ∀ code, s.run.result = .ok code ↔ firstNegative s.callsOfRun s.world = some code
  negative : ∀ code, s.run.result = .ok code → code < 0
  /-- It fails with the error that was received, or with that of the last delivery. -/
  failed : ∀ e, s.run.result = .error e ↔
    (∃ e', last = .error e' ∧ e = .ofTransport e') ∨
      (handlePackets (batches ++ last.toOption.toList) s.watched).result = .error e
  /-- If nothing ends it before, it ends with the stream. -/
  closed : batches.length = (stream s.transport).length → s.run.result = .error (.transport .closed)

/-- **A run consumes the stream** up to what ends it. -/
theorem Runs.consumes [FiniteTransport τ] {stream : τ → List (Except TransportError Bytes)}
    (hstream : Streams stream) {s final : Session τ ω} {batches : List Bytes}
    {last : Except TransportError Bytes} {r : Except SessionError Int32}
    (h : Runs s batches last final r) : s.Consumes stream batches last := by
  -- the same run, of the session, over the recorded transport and with watched handlers
  obtain ⟨hresult, hstate⟩ := h.run_eq
  obtain ⟨final', hrecorded, hunrecorded, huses⟩ := h.recorded s.unrecorded_recorded
  obtain ⟨hresult', hstate'⟩ := hrecorded.run_eq
  obtain ⟨calls, hwatched, haccounts⟩ := h.watched (.nil s.world)
  obtain ⟨hresult'', hstate''⟩ := hwatched.run_eq
  obtain ⟨hreceipts, hleft⟩ := h.takes hstream
  obtain ⟨hearlier, hfinal, hbroken, hended⟩ := hwatched.delivered s.transport
  have hcalls : s.callsOfRun = calls := congrArg (fun s => s.world.calls) hstate''
  have hhalted (code : Int32) :
      s.run.result = .ok code ↔ firstNegative s.callsOfRun s.world = some code := by
    have hcode : firstNegative calls s.world = r.toOption := haccounts.code
    rw [hcalls, hresult, hcode]
    cases r <;> simp [Except.toOption]
  constructor
  case rounds =>
    have hle := hreceipts.length_le
    simp only [Session.receipts, List.length_append, List.length_map, List.length_singleton] at hle
    exact h.runFor_eq (by omega)
  case receipts => exact hreceipts
  case uses =>
    rw [hstate', huses]
    rfl
  case recorded => exact ⟨by rw [hstate', hunrecorded, hstate], by rw [hresult', hresult]⟩
  case left => rw [hstate, hleft]
  case watched =>
    refine ⟨?_, by rw [hresult'', hresult]⟩
    rw [hstate'', hcalls, hstate]
    rfl
  case delivered =>
    rw [hstate'']
    exact (congrArg world hfinal).symm
  case earlier => exact hearlier
  case halted => exact hhalted
  case negative => exact fun code hcode => lt_of_firstNegative ((hhalted code).mp hcode)
  case failed =>
    intro e
    rw [hresult]
    cases last with
    | error e' =>
        have hr := hbroken e' rfl
        have hcontinue : (handlePackets (batches ++ []) s.watched).result = .ok .continue := by
          rw [List.append_nil]
          exact hearlier
        constructor
        · intro he
          exact Or.inl ⟨e', rfl, Except.error.inj (he.symm.trans hr)⟩
        · rintro (⟨e'', he'', rfl⟩ | he)
          · cases he''
            exact hr
          · cases hcontinue.symm.trans he
    | ok bytes =>
        rw [error_iff_of_end (hended bytes rfl)]
        constructor
        · intro he
          exact Or.inr he
        · rintro (⟨e', he', -⟩ | he)
          · cases he'
          · exact he
  case closed =>
    intro hall
    have hlength : (Session.receipts batches last).length =
        (stream s.transport ++ [Except.error TransportError.closed]).length := by
      simp [Session.receipts, hall]
    obtain ⟨-, hlast⟩ := List.append_inj' (hreceipts.eq_of_length hlength) rfl
    rw [hresult]
    exact hbroken .closed (List.singleton_inj.mp hlast)

end Session

/-- A scripted transport brings the entries of its script, each of them cut to what one receive can
hold. -/
theorem ScriptedTransport.streams :
    Streams fun t : ScriptedTransport => t.inbound.map fun item => item.map t.cut where
  receive t := by
    obtain ⟨verdicts, inbound, refusal, messageSize, sent, resizes⟩ := t
    cases inbound <;> rfl
  tail t := by
    obtain ⟨verdicts, inbound, refusal, messageSize, sent, resizes⟩ := t
    cases inbound <;> rfl

/-- **A run consumes the stream of its transport and ends**, whatever the handlers do. It makes at
most one receive for each entry and one for the end; the handlers are called as they are for the
received batches, one after another; it succeeds with the first negative answer of a handler, and
otherwise fails with the first error of a receive or a delivery. The entries that it has not
received are still there, and another run goes on with them in the same way. -/
theorem run_consumes_stream {τ ω : Type} [FiniteTransport τ]
    (stream : τ → List (Except TransportError Bytes)) (hstream : Streams stream)
    (s : Session τ ω) :
    (∃ batches last, s.Consumes stream batches last) ∧
      ∃ batches last, s.run.state.Consumes stream batches last := by
  have hconsumes (s : Session τ ω) : ∃ batches last, s.Consumes stream batches last := by
    obtain ⟨batches, last, final, r, hruns⟩ := Session.Runs.exists_of_streams hstream s
    exact ⟨batches, last, hruns.consumes hstream⟩
  exact ⟨hconsumes s, hconsumes s.run.state⟩

/-- The handler of group 5 answers its second record with -7. Of three batches with a record each, a
run receives two; another one receives the third and the end. -/
theorem halted_run_goes_on_with_the_rest :
    let record : Bytes := ({ len := 20, kind := recordKind } : MessageHeader).encode ++
      ({ family := 2, group := 5 } : GroupHeader).encode
    let script : ScriptedTransport := { inbound := [.ok record, .ok record, .ok record] }
    let handler : Handler Nat := fun _ _ _ n =>
      { result := if n = 1 then -7 else 0, state := n + 1 }
    let s := ((Session.start {} script 0).1.perform (.bindGroupWith 5 handler)).state
    let stream := fun t : ScriptedTransport => t.inbound.map fun item => item.map t.cut
    (∃ batches last, s.Consumes stream batches last) ∧ s.run.result = .ok (-7) ∧
      s.run.state.transport.inbound = [.ok record] ∧
      (∃ batches last, s.run.state.Consumes stream batches last) ∧
      s.run.state.run.result = .error (.transport .closed) ∧
      s.run.state.run.state.world = 3 := by
  intro record script handler s stream
  obtain ⟨hfirst, hsecond⟩ := run_consumes_stream stream ScriptedTransport.streams s
  obtain ⟨batches, last, h⟩ := hfirst
  obtain ⟨batches', last', h'⟩ := hsecond
  have hrounds : s.runFor 4 = some s.run := by
    have hlength : (stream s.transport).length + 1 = 4 := by decide +kernel
    rw [← hlength]
    exact h.rounds
  -- the rounds can be computed, and the state behind them is that of the run
  let t := ((s.runFor 4).map Outcome.state).getD s
  have ht : s.run.state = t := by
    simp only [t, hrounds]
    rfl
  have hrounds' : t.runFor 2 = some s.run.state.run := by
    have hlength : (stream t.transport).length + 1 = 2 := by decide +kernel
    rw [← hlength, ← ht]
    exact h'.rounds
  have hcode : (s.runFor 4).map Outcome.result = some (.ok (-7)) := by decide +kernel
  have hleft : t.transport.inbound = [.ok record] := by decide +kernel
  have hclosed : (t.runFor 2).map Outcome.result = some (.error (.transport .closed)) := by
    decide +kernel
  have hworld : (t.runFor 2).map (fun o => o.state.world) = some 3 := by decide +kernel
  rw [hrounds] at hcode
  rw [hrounds'] at hclosed hworld
  refine ⟨⟨batches, last, h⟩, Option.some.inj hcode, ?_, ⟨batches', last', h'⟩,
    Option.some.inj hclosed, Option.some.inj hworld⟩
  rw [ht, hleft]

end PacketLog
