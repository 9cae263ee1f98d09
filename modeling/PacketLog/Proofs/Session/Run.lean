import Mathlib
import PacketLog.Proofs.Session.Answers
import PacketLog.Proofs.Session.Batches
import PacketLog.Proofs.Session.Recording

set_option autoImplicit false

/-! # Runs

A run receives batches and delivers them one after the other, until a receive or a delivery ends it.
`Session.Runs` says how a run goes, with one constructor for each way a round can go, and the loop
runs so (`Session.Runs.run_eq`), also if it is given up only behind the last round
(`Session.Runs.runFor_eq`). Recording the transport and watching the handlers change nothing about
it, and the handlers are called as they are for the batches one after another
(`Session.Runs.delivered`). -/

namespace PacketLog

namespace Session

variable {τ ω : Type}

/-! ## Rounds -/

/-- How a run ends with a delivery, if it does not go on. -/
def endOf : Except SessionError Delivery → Option (Except SessionError Int32)
  | .error e => some (.error e)
  | .ok (.halted code) => some (.ok code)
  | .ok .continue => none

theorem endOf_cases (d : Except SessionError Delivery) :
    d = .ok .continue ∨ ∃ r, endOf d = some r := by
  rcases d with e | _ | code
  · exact Or.inr ⟨_, rfl⟩
  · exact Or.inl rfl
  · exact Or.inr ⟨_, rfl⟩

theorem haltCode_of_end {d : Except SessionError Delivery} {r : Except SessionError Int32}
    (h : endOf d = some r) : haltCode d = r.toOption := by
  rcases d with e | _ | code
  · cases h
    rfl
  · cases h
  · cases h
    rfl

theorem error_iff_of_end {d : Except SessionError Delivery} {r : Except SessionError Int32}
    (h : endOf d = some r) {e : SessionError} : r = .error e ↔ d = .error e := by
  rcases d with e' | _ | code
  · cases h
    constructor <;> rintro ⟨⟩ <;> rfl
  · cases h
  · cases h
    constructor <;> nofun

/-- The loop, given up after some rounds. -/
def runFor [Transport τ] : Nat → Session τ ω →
    Option (Outcome (Session τ ω) (Except SessionError Int32))
  | 0, _ => none
  | k + 1, s =>
    let o := s.processNext
    match endOf o.result with
    | some r => some { result := r, state := o.state, events := o.events }
    | none => (runFor k o.state).map (·.after o.events)

section Loop

variable [FiniteTransport τ] {s : Session τ ω}

theorem run_of_end {r : Except SessionError Int32} (h : endOf s.processNext.result = some r) :
    s.run = { result := r, state := s.processNext.state, events := s.processNext.events } := by
  rw [run]
  split
  · rename_i hround
    rw [hround] at h
    cases h
    rfl
  · rename_i hround
    rw [hround] at h
    cases h
    rfl
  · rename_i hround
    rw [hround] at h
    cases h

theorem run_of_continue (h : s.processNext.result = .ok .continue) :
    s.run = s.processNext.state.run.after s.processNext.events := by
  rw [run]
  split
  · rename_i hround
    cases h.symm.trans hround
  · rename_i hround
    cases h.symm.trans hround
  · rfl

theorem runFor_of_end {r : Except SessionError Int32} (h : endOf s.processNext.result = some r)
    (k : Nat) : s.runFor (k + 1) = some s.run := by
  simp only [runFor, h, run_of_end h]

theorem runFor_of_continue (h : s.processNext.result = .ok .continue) (k : Nat) :
    s.runFor (k + 1) = (s.processNext.state.runFor k).map (·.after s.processNext.events) := by
  simp only [runFor, h, endOf]

end Loop

/-! ## How a run goes -/

/-- What the receives of a run bring. -/
def receipts (batches : List Bytes) (last : Except TransportError Bytes) :
    List (Except TransportError Bytes) := batches.map .ok ++ [last]

/-- How a run goes: the batches after which it goes on, what it receives last, and the state and the
result with which it ends. -/
inductive Runs [Transport τ] : Session τ ω → List Bytes → Except TransportError Bytes →
    Session τ ω → Except SessionError Int32 → Prop where
  /-- There is no batch to deliver. -/
  | broken {s : Session τ ω} {e : TransportError}
      (hreceive : (Transport.receive s.transport).result = .error e) :
      Runs s [] (.error e) s.received (.error (.ofTransport e))
  /-- The delivery of the batch is halted or fails. -/
  | ended {s : Session τ ω} {bytes : Bytes} {r : Except SessionError Int32}
      (hreceive : (Transport.receive s.transport).result = .ok bytes)
      (hend : endOf (s.received.handlePacket bytes).result = some r) :
      Runs s [] (.ok bytes) (s.received.handlePacket bytes).state r
  /-- The batch is delivered, and the run goes on behind it. -/
  | goesOn {s final : Session τ ω} {bytes : Bytes} {batches : List Bytes}
      {last : Except TransportError Bytes} {r : Except SessionError Int32}
      (hreceive : (Transport.receive s.transport).result = .ok bytes)
      (hcontinue : (s.received.handlePacket bytes).result = .ok .continue)
      (rest : Runs (s.received.handlePacket bytes).state batches last final r) :
      Runs s (bytes :: batches) last final r

namespace Runs

section Loop

variable [FiniteTransport τ] {s final : Session τ ω} {batches : List Bytes}
  {last : Except TransportError Bytes} {r : Except SessionError Int32}

/-- **The loop runs so.** -/
theorem run_eq (h : Runs s batches last final r) : s.run.result = r ∧ s.run.state = final := by
  induction h with
  | broken hreceive =>
      have hround := processNext_of_error hreceive
      have hend := congrArg (fun o => endOf o.result) hround
      rw [run_of_end hend, hround]
      exact ⟨rfl, rfl⟩
  | ended hreceive hend =>
      have hround := processNext_of_ok hreceive
      have hend' := (congrArg (fun o => endOf o.result) hround).trans hend
      rw [run_of_end hend', hround]
      exact ⟨rfl, rfl⟩
  | goesOn hreceive hcontinue rest ih =>
      have hround := processNext_of_ok hreceive
      have hcontinue' := (congrArg Outcome.result hround).trans hcontinue
      rw [run_of_continue hcontinue', hround]
      exact ih

/-- **The loop ends after as many rounds as there are receives.** -/
theorem runFor_eq (h : Runs s batches last final r) {k : Nat} (hk : batches.length < k) :
    s.runFor k = some s.run := by
  induction h generalizing k with
  | broken hreceive =>
      obtain ⟨k, rfl⟩ := Nat.exists_eq_add_one_of_ne_zero (Nat.ne_of_gt hk)
      have hround := processNext_of_error hreceive
      exact runFor_of_end (congrArg (fun o => endOf o.result) hround) k
  | ended hreceive hend =>
      obtain ⟨k, rfl⟩ := Nat.exists_eq_add_one_of_ne_zero (Nat.ne_of_gt hk)
      have hround := processNext_of_ok hreceive
      exact runFor_of_end ((congrArg (fun o => endOf o.result) hround).trans hend) k
  | @goesOn s final bytes batches last r hreceive hcontinue rest ih =>
      obtain ⟨k, rfl⟩ := Nat.exists_eq_add_one_of_ne_zero (Nat.ne_of_gt (Nat.zero_lt_of_lt hk))
      have hlater : batches.length < k := by
        rw [List.length_cons] at hk
        omega
      have hround := processNext_of_ok hreceive
      have hcontinue' := (congrArg Outcome.result hround).trans hcontinue
      rw [runFor_of_continue hcontinue', run_of_continue hcontinue', hround, Outcome.state_after,
        ih hlater]
      rfl

end Loop

section Delivery

variable [Transport τ] {s final : Session τ ω} {batches : List Bytes}
  {last : Except TransportError Bytes} {r : Except SessionError Int32}

/-- **The batches are delivered one after another**, and the run ends with what comes of the last
one, or with the error in place of it. -/
theorem delivered (h : Runs s batches last final r) {τ' : Type} (t : τ') :
    let o := handlePackets (batches ++ last.toOption.toList) (s.withTransport t)
    (handlePackets batches (s.withTransport t)).result = .ok .continue ∧
      o.state = final.withTransport t ∧
      (∀ e, last = .error e → r = .error (.ofTransport e)) ∧
      ∀ bytes, last = .ok bytes → endOf o.result = some r := by
  -- the transport has no part in the delivery of a batch
  have hpacket (s : Session τ ω) (bytes : Bytes) : (s.withTransport t).handlePacket bytes =
      (s.received.handlePacket bytes).within (·.withTransport t) :=
    deliver_withTransport _ s.received t
  induction h with
  | @broken s e hreceive =>
      refine ⟨rfl, rfl, fun e' he' => ?_, fun bytes hbytes => ?_⟩
      · cases he'
        rfl
      · cases hbytes
  | @ended s bytes r hreceive hend =>
      have hne : ((s.withTransport t).handlePacket bytes).result ≠ .ok .continue := by
        intro hcontinue
        rw [hpacket, Outcome.result_within] at hcontinue
        rw [hcontinue] at hend
        cases hend
      have hlast : handlePackets [bytes] (s.withTransport t) =
          (s.received.handlePacket bytes).within (·.withTransport t) := by
        rw [handlePackets, Outcome.thenDeliver_of_ended _ hne, hpacket]
      refine ⟨rfl, congrArg Outcome.state hlast, fun e he => ?_, fun _ _ => ?_⟩
      · cases he
      · exact (congrArg (fun o => endOf o.result) hlast).trans hend
  | @goesOn s final bytes batches last r hreceive hcontinue rest ih =>
      have hgoes (later : List Bytes) : handlePackets (bytes :: later) (s.withTransport t) =
          (handlePackets later ((s.received.handlePacket bytes).state.withTransport t)).after
            (s.received.handlePacket bytes).events := by
        rw [handlePackets, hpacket]
        exact Outcome.thenDeliver_of_continue _ hcontinue
      rw [List.cons_append, hgoes, hgoes]
      exact ih

/-- **Recording the transport changes nothing**, and the log shows one receive after the other. -/
theorem recorded (h : Runs s batches last final r) {t : Session (Recorded τ) ω}
    (ht : t.unrecorded = s) :
    ∃ final', Runs t batches last final' r ∧ final'.unrecorded = final ∧
      final'.transport.uses = t.transport.uses ++ (receipts batches last).map .receive := by
  -- a receive is written down with its answer
  have hreceived {t : Session (Recorded τ) ω} {answer : Except TransportError Bytes}
      (h : (Transport.receive t.unrecorded.transport).result = answer) :
      t.received.transport.uses = t.transport.uses ++ [.receive answer] := by
    rw [← h]
    exact Recorded.uses_receive t.transport
  have hpacket (t : Session (Recorded τ) ω) (bytes : Bytes) :
      (t.received.handlePacket bytes).within unrecorded =
        t.unrecorded.received.handlePacket bytes := within_deliver _ t.received
  induction h generalizing t with
  | broken hreceive =>
      subst ht
      exact ⟨t.received, .broken hreceive, rfl, hreceived hreceive⟩
  | @ended s bytes r hreceive hend =>
      subst ht
      have hend' : endOf (t.received.handlePacket bytes).result = some r :=
        (congrArg (fun o => endOf o.result) (hpacket t bytes)).trans hend
      refine ⟨_, .ended hreceive hend', congrArg Outcome.state (hpacket t bytes), ?_⟩
      rw [transport_handlePacket]
      exact hreceived hreceive
  | @goesOn s final bytes batches last r hreceive hcontinue rest ih =>
      subst ht
      have hcontinue' : (t.received.handlePacket bytes).result = .ok .continue :=
        (congrArg Outcome.result (hpacket t bytes)).trans hcontinue
      obtain ⟨final', hrest, hfinal, huses⟩ := ih (congrArg Outcome.state (hpacket t bytes))
      refine ⟨final', .goesOn hreceive hcontinue' hrest, hfinal, ?_⟩
      rw [huses, transport_handlePacket, hreceived hreceive, List.append_assoc]
      rfl

/-- **Watching the handlers changes nothing**, and their calls account for the end of the run. -/
theorem watched (h : Runs s batches last final r) {w : ω} {calls : List (HandlerCall ω)}
    (hw : Accounts w calls s.world none) :
    ∃ new, Runs (s.watched calls) batches last (final.watched (calls ++ new)) r ∧
      Accounts w (calls ++ new) final.world r.toOption := by
  induction h generalizing calls with
  | broken hreceive =>
      refine ⟨[], ?_⟩
      rw [List.append_nil]
      exact ⟨.broken hreceive, hw⟩
  | @ended s bytes r hreceive hend =>
      obtain ⟨new, hpacket, haccounts⟩ :=
        s.received.watched_handlePacket_accounts bytes hw
      have hend' : endOf ((s.watched calls).received.handlePacket bytes).result = some r :=
        (congrArg (fun o => endOf o.result) hpacket).trans hend
      have hstate : ((s.watched calls).received.handlePacket bytes).state =
          (s.received.handlePacket bytes).state.watched (calls ++ new) :=
        congrArg Outcome.state hpacket
      refine ⟨new, ?_, ?_⟩
      · rw [← hstate]
        exact .ended hreceive hend'
      · rw [← haltCode_of_end hend]
        exact haccounts
  | @goesOn s final bytes batches last r hreceive hcontinue rest ih =>
      obtain ⟨new, hpacket, haccounts⟩ :=
        s.received.watched_handlePacket_accounts bytes hw
      rw [hcontinue] at haccounts
      obtain ⟨new', hrest, haccounts'⟩ := ih haccounts
      have hcontinue' : ((s.watched calls).received.handlePacket bytes).result = .ok .continue :=
        (congrArg Outcome.result hpacket).trans hcontinue
      have hstate : ((s.watched calls).received.handlePacket bytes).state =
          (s.received.handlePacket bytes).state.watched (calls ++ new) :=
        congrArg Outcome.state hpacket
      rw [← hstate, List.append_assoc] at hrest
      rw [List.append_assoc] at haccounts'
      exact ⟨new ++ new', .goesOn hreceive hcontinue' hrest, haccounts'⟩

end Delivery

end Runs

end Session

end PacketLog
