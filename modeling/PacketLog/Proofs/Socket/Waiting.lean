import Mathlib
import PacketLog.Proofs.Socket.Traffic
import PacketLog.Proofs.Transport.Reply

set_option autoImplicit false

/-! # Waiting for a verdict

A request that waits hears the datagrams in front of the kernel's queue, one after the other. The
last one ends the wait (`Socket.exists_waited`). A request as a whole uses up its number; it is sent
under this number, if at all, and waits (`Socket.requested_request`). -/

namespace PacketLog

namespace Socket

/-! ## Results of a wait -/

/-- A wait for the verdict on the request `seq` that heard the datagrams `heard` may have this
result: an acceptance or a rejection is what the last datagram says about this request. -/
def Credited (seq : UInt32) (heard : List Bytes) : Except TransportError Unit → Prop
  | .ok _ => ∃ d, heard.getLast? = some d ∧ Reply.IsVerdict d 0 seq
  | .error (.rejected code) => ∃ d verdict, heard.getLast? = some d ∧ verdict ≠ 0 ∧
      code = Reply.opposite verdict ∧ Reply.IsVerdict d verdict seq
  | .error _ => True

section Results

variable {seq : UInt32} {heard : List Bytes}

theorem credited_of_error {e : TransportError} (h : ∀ code, e ≠ .rejected code) :
    Credited seq heard (.error e) := by
  cases e with
  | rejected code => exact absurd rfl (h code)
  | _ => trivial

theorem Credited.cons {result : Except TransportError Unit} (h : Credited seq heard result)
    (d : Bytes) : Credited seq (d :: heard) result := by
  have hlast {x : Bytes} (hx : heard.getLast? = some x) : (d :: heard).getLast? = some x := by
    rw [List.getLast?_cons, hx]
    rfl
  cases result with
  | ok u => exact h.imp fun x hx => ⟨hlast hx.1, hx.2⟩
  | error e =>
      cases e with
      | rejected code => exact h.imp fun x hx => hx.imp fun verdict h => ⟨hlast h.1, h.2⟩
      | _ => trivial

theorem credited_of_ack {d : Bytes} (h : Reply.classify d seq = .ok .ack) :
    Credited seq [d] (.ok ()) := by
  have hspec := Reply.classify_spec d seq
  rw [h] at hspec
  exact ⟨d, rfl, hspec⟩

theorem credited_of_rejected {d : Bytes} {code : Int32}
    (h : Reply.classify d seq = .ok (.rejected code)) :
    Credited seq [d] (.error (.rejected code)) := by
  have hspec := Reply.classify_spec d seq
  rw [h] at hspec
  obtain ⟨verdict, hspec⟩ := hspec
  exact ⟨d, verdict, rfl, hspec⟩

theorem credited_of_malformed {d : Bytes} {e : TransportError}
    (h : Reply.classify d seq = .error e) : Credited seq [d] (.error e) := by
  have hspec := Reply.classify_spec d seq
  rw [h] at hspec
  obtain ⟨error, rfl⟩ := hspec
  trivial

end Results

/-! ## The wait -/

/-- What has happened when a wait for the verdict on the request `seq` is over: `heard` was taken
from the kernel's queue. -/
structure Waited (seq : UInt32) (s : Socket) (o : Outcome Socket (Except TransportError Unit))
    (heard : List Bytes) : Prop where
  waiting : s.kernel.waiting = heard ++ o.state.kernel.waiting
  pending : ∀ t : Traffic, Traffic.those Fate.isPending t = s.pending →
    Traffic.those Fate.isPending (heard.foldl (Traffic.hear seq) t) = o.state.pending
  nextSeq : o.state.nextSeq = s.nextSeq
  sends : Event.sends o.events = []
  credited : Credited seq heard o.result

namespace Waited

variable {seq : UInt32} {s : Socket} {r : Outcome Socket (Except TransportError Bytes)}

/-- The wait ends because nothing more can be received. -/
theorem of_error (h : Received s r) {e : TransportError} (he : r.result = .error e) :
    ∃ heard, Waited seq s { result := .error e, state := r.state, events := r.events } heard := by
  obtain ⟨hpending, hseq, hsends, htaken⟩ := h
  rw [he] at htaken
  obtain ⟨hne, htaken⟩ := htaken
  rcases htaken with hnone | ⟨-, hempty⟩
  · exact ⟨[], hnone, fun t ht => ht.trans hpending.symm, hseq, hsends, credited_of_error hne⟩
  · refine ⟨[[]], hempty, fun t ht => ?_, hseq, hsends, credited_of_error hne⟩
    show Traffic.those Fate.isPending (Traffic.hear seq t []) = r.state.pending
    rw [Traffic.hear_nil, Traffic.those_append, hpending, ht]
    exact List.append_nil _

/-- The wait ends with a datagram. -/
theorem of_last (h : Received s r) {d : Bytes} (hd : r.result = .ok d)
    {found : Except TransportError Reply} (hfound : Reply.classify d seq = found)
    (hne : found ≠ .ok .unrelated) {result : Except TransportError Unit}
    (hcredited : Credited seq [d] result) {events : List Event}
    (hevents : Event.sends events = []) :
    Waited seq s { result, state := r.state, events := r.events ++ events } [d] := by
  obtain ⟨hpending, hseq, hsends, htaken⟩ := h
  rw [hd] at htaken
  obtain ⟨hd, htaken⟩ := htaken
  refine ⟨htaken, fun t ht => ?_, hseq, ?_, hcredited⟩
  · show Traffic.those Fate.isPending (Traffic.hear seq t d) = r.state.pending
    rw [Traffic.pending_hear_of_settled hd hfound hne, hpending, ht]
  · rw [Event.sends_append, hsends, hevents]
    rfl

/-- The wait goes on after a datagram, in the state `t` in which the datagram is dealt with. -/
theorem of_next (h : Received s r) {d : Bytes} (hd : r.result = .ok d) {t : Socket}
    (hkernel : t.kernel = r.state.kernel) (hseq : t.nextSeq = r.state.nextSeq)
    (hpending : ∀ u : Traffic, Traffic.those Fate.isPending u = r.state.pending →
      Traffic.those Fate.isPending (Traffic.hear seq u d) = t.pending)
    {o : Outcome Socket (Except TransportError Unit)} {heard : List Bytes}
    (hrest : Waited seq t o heard) {events : List Event} (hevents : Event.sends events = []) :
    Waited seq s (o.after (r.events ++ events)) (d :: heard) := by
  have htaken := h.taken
  rw [hd] at htaken
  constructor
  case waiting => rw [htaken.2, ← hkernel, hrest.waiting]; rfl
  case pending =>
    intro u hu
    exact hrest.pending _ (hpending u (hu.trans h.pending.symm))
  case nextSeq => exact hrest.nextSeq.trans (hseq.trans h.nextSeq)
  case sends =>
    rw [Outcome.events_after, Event.sends_append, Event.sends_append, h.sends, hevents,
      hrest.sends]
    rfl
  case credited => exact hrest.credited.cons d

end Waited

theorem sends_keep (d : Bytes) (s : Socket) : Event.sends (s.keep d).events = [] := by
  unfold keep
  split <;> rfl

theorem nextSeq_keep (d : Bytes) (s : Socket) : (s.keep d).state.nextSeq = s.nextSeq := by
  unfold keep
  split <;> rfl

/-- **Waiting for a verdict is hearing datagrams** until one ends the wait. -/
theorem exists_waited (seq : UInt32) (s : Socket) :
    ∃ heard, Waited seq s (s.awaitVerdict seq) heard := by
  -- along the datagrams that are read: the first four cases end the wait, the others go on
  fun_induction awaitVerdict seq s with
  | case1 s o e h => exact Waited.of_error s.received_receiveDatagram h
  | case2 s o d h e hfound =>
      have hlast := Waited.of_last s.received_receiveDatagram h hfound (by simp)
        (credited_of_malformed hfound) Event.sends_nil
      rw [List.append_nil] at hlast
      exact ⟨[d], hlast⟩
  | case3 s o d h hfound =>
      have hlast := Waited.of_last s.received_receiveDatagram h hfound (by simp)
        (credited_of_ack hfound) Event.sends_nil
      rw [List.append_nil] at hlast
      exact ⟨[d], hlast⟩
  | case4 s o d h code hfound =>
      exact ⟨[d], Waited.of_last s.received_receiveDatagram h hfound (by simp)
        (credited_of_rejected hfound) rfl⟩
  | case5 s o d h got hfound ih =>
      obtain ⟨heard, hrest⟩ := ih
      have htaken := s.received_receiveDatagram.taken
      rw [h] at htaken
      refine ⟨d :: heard, Waited.of_next s.received_receiveDatagram h rfl rfl ?_ hrest rfl⟩
      intro u hu
      rw [Traffic.pending_hear_of_settled htaken.1 hfound (by simp), hu]
  | case6 s o d h hfound kept ih =>
      obtain ⟨heard, hrest⟩ := ih
      have htaken := s.received_receiveDatagram.taken
      rw [h] at htaken
      refine ⟨d :: heard, Waited.of_next s.received_receiveDatagram h (kernel_keep d o.state)
        (nextSeq_keep d o.state) ?_ hrest (sends_keep d o.state)⟩
      intro u hu
      rw [Traffic.hear_of_unrelated htaken.1 hfound, pending_keep hu]

/-! ## The request -/

/-- A request that is over. -/
structure Request where
  /-- The number that it used up. -/
  seq : UInt32
  /-- The message as it was given. -/
  message : Bytes
  /-- What went out. -/
  sent : List Bytes
  /-- The datagrams that were read while it waited. -/
  heard : List Bytes
  result : Except TransportError Unit

/-- What holds of every request that is over: it was sent under its number or not at all, and only
a verdict on this number counts. -/
structure Request.Proper (r : Request) : Prop where
  sent : r.sent = [] ∨ ∃ bytes, MessageHeader.stamp r.message r.seq = .ok bytes ∧ r.sent = [bytes]
  refused : ∀ e, MessageHeader.stamp r.message r.seq = .error e →
    r.result = .error (.malformed e) ∧ r.sent = []
  unsent : r.sent = [] →
    (∃ e, MessageHeader.stamp r.message r.seq = .error e) ∨ ∃ e, r.result = .error (.io e)
  credited : Credited r.seq r.heard r.result

/-- The datagrams that come to wait at the kernel when a request goes out. -/
def arrivals (message : Bytes) (s : Socket) : List Bytes :=
  match MessageHeader.stamp message s.nextSeq with
  | .error _ => []
  | .ok bytes => (sendMessage bytes s.kernel).state.waiting.drop s.kernel.waiting.length

/-- What has happened when a request is over: `heard` was taken from the kernel's queue. -/
structure Requested (message : Bytes) (s : Socket)
    (o : Outcome Socket (Except TransportError Unit)) (heard : List Bytes) : Prop where
  waiting : s.kernel.waiting ++ s.arrivals message = heard ++ o.state.kernel.waiting
  pending : ∀ t : Traffic, Traffic.those Fate.isPending t = s.pending →
    Traffic.those Fate.isPending (heard.foldl (Traffic.hear s.nextSeq) t) = o.state.pending
  nextSeq : o.state.nextSeq = s.nextSeq + 1
  proper : Request.Proper { seq := s.nextSeq, message, sent := Event.sends o.events
                            heard, result := o.result }

section Request

variable {message bytes : Bytes} {s : Socket}

theorem request_of_unstamped {e : WireError}
    (h : MessageHeader.stamp message s.nextSeq = .error e) :
    s.request message = { result := .error (.malformed e)
                          state := { s with nextSeq := s.nextSeq + 1 } } := by
  simp only [request, h]

theorem request_of_unsent {e : TransportError}
    (h : MessageHeader.stamp message s.nextSeq = .ok bytes)
    (hsend : (sendMessage bytes s.kernel).result = .error e) :
    s.request message =
      { result := .error e
        state := { s with nextSeq := s.nextSeq + 1, kernel := (sendMessage bytes s.kernel).state }
        events := (sendMessage bytes s.kernel).events } := by
  simp only [request, h]
  rw [Outcome.andThen_of_error (by exact hsend)]
  rfl

theorem request_of_sent (h : MessageHeader.stamp message s.nextSeq = .ok bytes)
    (hsend : (sendMessage bytes s.kernel).result = .ok ()) :
    let sent : Socket :=
      { s with nextSeq := s.nextSeq + 1, kernel := (sendMessage bytes s.kernel).state }
    s.request message =
      ((sent.awaitVerdict s.nextSeq).after [.debug "sent netlink request"
        [("seq", .number s.nextSeq.toNat), ("len", .number bytes.length)]]).after
        (sendMessage bytes s.kernel).events := by
  simp only [request, h]
  rw [Outcome.andThen_of_ok (by exact hsend)]
  rfl

theorem proper_of_unstamped {seq : UInt32} {e : WireError} {heard : List Bytes}
    (h : MessageHeader.stamp message seq = .error e) :
    Request.Proper { seq, message, sent := [], heard, result := .error (.malformed e) } where
  sent := Or.inl rfl
  refused _ h' := ⟨by rw [Except.error.inj (h.symm.trans h')], rfl⟩
  unsent _ := Or.inl ⟨e, h⟩
  credited := trivial

theorem proper_of_unsent {seq : UInt32} {e : OsError} {heard : List Bytes}
    (h : MessageHeader.stamp message seq = .ok bytes) :
    Request.Proper { seq, message, sent := [], heard, result := .error (.io e) } where
  sent := Or.inl rfl
  refused _ h' := absurd (h.symm.trans h') (by simp)
  unsent _ := Or.inr ⟨e, rfl⟩
  credited := trivial

theorem proper_of_sent {seq : UInt32} {heard : List Bytes} {result : Except TransportError Unit}
    (h : MessageHeader.stamp message seq = .ok bytes) (hcredited : Credited seq heard result) :
    Request.Proper { seq, message, sent := [bytes], heard, result } where
  sent := Or.inr ⟨bytes, h, rfl⟩
  refused _ h' := absurd (h.symm.trans h') (by simp)
  unsent h' := absurd h' (by simp)
  credited := hcredited

/-- **A request uses up its number, is sent under it, if at all, and waits.** -/
theorem exists_requested (message : Bytes) (s : Socket) :
    ∃ heard, Requested message s (s.request message) heard := by
  cases hstamp : MessageHeader.stamp message s.nextSeq with
  | error e =>
      have harrivals : s.arrivals message = [] := by rw [arrivals, hstamp]
      rw [request_of_unstamped hstamp]
      exact ⟨[], by rw [harrivals, List.append_nil]; rfl, fun _ ht => ht, rfl,
        proper_of_unstamped hstamp⟩
  | ok bytes =>
      rcases sendMessage_cases bytes s.kernel with ⟨e, herr, hsends, hwaiting⟩ |
        ⟨answers, hok, hsends, hwaiting⟩
      · have harrivals : s.arrivals message = [] := by
          rw [arrivals, hstamp]
          simp only [hwaiting, List.drop_length]
        rw [request_of_unsent hstamp herr]
        refine ⟨[], ?_, fun _ ht => ht, rfl, ?_⟩
        · rw [harrivals, List.append_nil]
          exact hwaiting.symm
        · rw [hsends]
          exact proper_of_unsent hstamp
      · have harrivals : s.arrivals message = answers := by
          rw [arrivals, hstamp]
          simp only [hwaiting, List.drop_left]
        let sent : Socket :=
          { s with nextSeq := s.nextSeq + 1, kernel := (sendMessage bytes s.kernel).state }
        obtain ⟨heard, h⟩ := exists_waited s.nextSeq sent
        -- the wait sends nothing more
        have hbytes : Event.sends (s.request message).events = [bytes] := by
          rw [request_of_sent hstamp hok, Outcome.events_after, Outcome.events_after,
            Event.sends_append, Event.sends_append, hsends, h.sends]
          rfl
        refine ⟨heard, ?_⟩
        constructor
        case waiting => rw [harrivals, ← hwaiting, request_of_sent hstamp hok]; exact h.waiting
        case pending => rw [request_of_sent hstamp hok]; exact h.pending
        case nextSeq => rw [request_of_sent hstamp hok]; exact h.nextSeq
        case proper =>
          rw [hbytes, request_of_sent hstamp hok]
          exact proper_of_sent hstamp h.credited

end Request

/-- What was taken from the front of a queue, when `after` is left. -/
def taken (before after : List Bytes) : List Bytes :=
  before.take (before.length - after.length)

theorem taken_eq {before after front : List Bytes} (h : before = front ++ after) :
    taken before after = front := by
  rw [taken, h, List.length_append, Nat.add_sub_cancel, List.take_left]

/-- The datagrams that a request takes from the kernel's queue while it waits. -/
def heard (message : Bytes) (s : Socket) : List Bytes :=
  taken (s.kernel.waiting ++ s.arrivals message) (s.request message).state.kernel.waiting

/-- **What a request does.** -/
theorem requested_request (message : Bytes) (s : Socket) :
    Requested message s (s.request message) (s.heard message) := by
  obtain ⟨front, h⟩ := s.exists_requested message
  have heq : s.heard message = front := taken_eq h.waiting
  rwa [heq]

end Socket

end PacketLog
