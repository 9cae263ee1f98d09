import Mathlib
import PacketLog.Proofs.Socket.Conservation
import PacketLog.Proofs.Wire.Frame

set_option autoImplicit false

/-! # Whose verdict it is

Requests are numbered one after the other from the seed on, modulo 2³² (`History.Numbered`), and a
verdict counts for the request whose number it echoes. As long as no number comes twice, a result
thus reports the verdict on its own request (`verdicts_credited`). -/

namespace PacketLog

namespace Message

theorem kind_of_errorCode {m : Message} {code : Int32} (h : m.errorCode = .ok (some code)) :
    m.header.kind = MessageHeader.errorKind := by
  by_contra hkind
  rw [errorCode, if_pos hkind] at h
  cases h

theorem decode_of_ackedSeq {m : Message} {seq : UInt32} (h : m.ackedSeq = some seq) :
    ∃ header, MessageHeader.decode (m.payload.drop 4) = .ok header ∧ header.seq = seq := by
  unfold ackedSeq at h
  split at h
  · rename_i header hdecode
    exact ⟨header, hdecode, Option.some.inj h⟩
  · cases h

end Message

namespace Socket

theorem nextSeq_receive (s : Socket) : s.receive.state.nextSeq = s.nextSeq := by
  unfold receive
  split
  · rfl
  · exact s.received_receiveDatagram.nextSeq

namespace History

/-- The requests of a history are numbered from the seed on. -/
structure Numbered (seed : UInt32) (h : History) : Prop where
  next : h.socket.nextSeq.toNat = (seed.toNat + h.requests.length) % 2 ^ 32
  seq : ∀ i r, h.requests[i]? = some r → r.seq.toNat = (seed.toNat + i) % 2 ^ 32
  proper : ∀ r ∈ h.requests, r.Proper
  heard : ∀ r ∈ h.requests, ∀ d ∈ r.heard, d ∈ h.arrived

namespace Numbered

variable {seed : UInt32} {h : History}

theorem start {s : Socket} (hseed : s.nextSeq = seed) : Numbered seed (History.start s) where
  next := by
    show s.nextSeq.toNat = (seed.toNat + 0) % 2 ^ 32
    rw [hseed, Nat.add_zero, Nat.mod_eq_of_lt seed.toNat_lt]
  seq i r hr := by cases hr
  proper := List.forall_mem_nil _
  heard := List.forall_mem_nil _

theorem request (hn : Numbered seed h) (ht : Tracks h) (message : Bytes) :
    Numbered seed (h.step (.request message)) := by
  have hrequested := h.socket.requested_request message
  constructor
  case next =>
    show (h.socket.request message).state.nextSeq.toNat =
      (seed.toNat + (h.requests ++ [_]).length) % 2 ^ 32
    rw [hrequested.nextSeq, UInt32.toNat_add, hn.next, List.length_append, List.length_singleton]
    show ((seed.toNat + h.requests.length) % 2 ^ 32 + 1) % 2 ^ 32 = _
    omega
  case seq =>
    intro i r hr
    change (h.requests ++ [_])[i]? = some r at hr
    rcases Nat.lt_or_ge i h.requests.length with hi | hi
    · rw [List.getElem?_append_left hi] at hr
      exact hn.seq i r hr
    · rw [List.getElem?_append_right hi, List.getElem?_singleton] at hr
      split at hr
      · cases hr
        have hlast : i = h.requests.length := by omega
        rw [hlast]
        exact hn.next
      · cases hr
  case proper =>
    intro r hr
    rcases List.mem_append.mp hr with hr | hr
    · exact hn.proper r hr
    · rw [List.mem_singleton.mp hr]
      exact hrequested.proper
  case heard =>
    intro r hr d hd
    show d ∈ h.arrived ++ h.socket.arrivals message
    rcases List.mem_append.mp hr with hr | hr
    · exact List.mem_append_left _ (hn.heard r hr d hd)
    · -- it waited already, or it came to wait when the request went out
      rw [List.mem_singleton.mp hr] at hd
      have hwaiting : d ∈ h.socket.kernel.waiting ++ h.socket.arrivals message := by
        rw [hrequested.waiting]
        exact List.mem_append_left _ hd
      rw [ht.arrived, List.append_assoc]
      exact List.mem_append_right _ hwaiting

/-- A step that makes no request and hides no arrival. -/
theorem of_eq (hn : Numbered seed h) {h' : History} (hnext : h'.socket.nextSeq = h.socket.nextSeq)
    (hrequests : h'.requests = h.requests) (harrived : ∀ d ∈ h.arrived, d ∈ h'.arrived) :
    Numbered seed h' where
  next := by rw [hnext, hrequests, hn.next]
  seq := by rw [hrequests]; exact hn.seq
  proper := by rw [hrequests]; exact hn.proper
  heard := by rw [hrequests]; exact fun r hr d hd => harrived d (hn.heard r hr d hd)

theorem step (hn : Numbered seed h) (ht : Tracks h) (x : Step) : Numbered seed (h.step x) := by
  cases x with
  | request message => exact hn.request ht message
  | receive => exact hn.of_eq h.socket.nextSeq_receive rfl fun d hd => hd
  | reserve size => exact hn.of_eq rfl rfl fun d hd => hd
  | resize size =>
      exact hn.of_eq (undisturbed_setReceiveBufferSize size _).nextSeq rfl fun d hd => hd
  | setTimeout timeout =>
      exact hn.of_eq (undisturbed_setReadTimeout timeout _).nextSeq rfl fun d hd => hd
  | arrive a => exact hn.of_eq rfl rfl fun d hd => List.mem_append_left _ hd
  | fail e => exact hn.of_eq rfl rfl fun d hd => hd

end Numbered

theorem numbered_run {kernel : Kernel} {config : SocketConfig} {seed : UInt32} {s : Socket}
    (hopen : (Socket.open kernel config seed).result = .ok s) (steps : List Socket.Step) :
    Numbered seed ((History.start s).run steps) := by
  obtain ⟨hfresh, hseed⟩ := fresh_of_open hopen
  exact (run_induction (motive := fun h => Tracks h ∧ Numbered seed h)
    ⟨Tracks.start hfresh, Numbered.start hseed⟩
    (fun _ x hboth => ⟨hboth.1.step x, hboth.2.step hboth.1 x⟩) steps).2

/-- Each error message that arrived echoes the header of a request that was sent, and it says what
`verdict` says about this request. -/
def Faithful (h : History) (verdict : Nat → Int32) : Prop :=
  ∀ d ∈ h.arrived, ∀ m, Message.parse d = .ok m → m.header.kind = MessageHeader.errorKind →
    ∃ j r bytes, h.requests[j]? = some r ∧ bytes ∈ r.sent ∧
      MessageHeader.decode (m.payload.drop 4) = MessageHeader.decode bytes ∧
      m.errorCode = .ok (some (verdict j))

/-- **Verdicts are told apart by their numbers**, since no number comes twice. -/
theorem Numbered.verdict_eq {seed : UInt32} {h : History} (hn : Numbered seed h)
    (hfew : h.requests.length < 2 ^ 32) {verdict : Nat → Int32} (hfaithful : h.Faithful verdict)
    {i : Nat} {r : Request} (hr : h.requests[i]? = some r) {d : Bytes} (hd : d ∈ h.arrived)
    {code : Int32} (hverdict : Reply.IsVerdict d code r.seq) : verdict i = code := by
  obtain ⟨m, hparse, hcode, hacked⟩ := hverdict
  obtain ⟨j, r', bytes, hr', hbytes, hecho, hsays⟩ :=
    hfaithful d hd m hparse (Message.kind_of_errorCode hcode)
  obtain ⟨header, hdecode, hseq⟩ := Message.decode_of_ackedSeq hacked
  -- the echoed header bears the number under which `r'` was sent
  have hstamped : header.seq = r'.seq := by
    rcases (hn.proper r' (List.mem_of_getElem? hr')).sent with hsent | ⟨sent, hstamp, hsent⟩
    · rw [hsent] at hbytes
      cases hbytes
    · rw [hsent, List.mem_singleton] at hbytes
      rw [hbytes] at hecho
      exact MessageHeader.seq_of_stamp hstamp (hecho.symm.trans hdecode)
  have hij : j = i := by
    -- fewer than 2³² steps from the seed, two numbers agree only at the same step
    have hnumber : r'.seq.toNat = r.seq.toNat := by rw [← hstamped, hseq]
    rw [hn.seq j r' hr', hn.seq i r hr] at hnumber
    have hi := (List.getElem?_eq_some_iff.mp hr).1
    have hj := (List.getElem?_eq_some_iff.mp hr').1
    omega
  rw [← hij]
  rw [hcode] at hsays
  exact (Option.some.inj (Except.ok.inj hsays)).symm

end History

end Socket

open Socket in
/-- **An acknowledgement is never credited to the wrong request.** After any run of a socket, the
request `i` has used up the number `seed + i`, was sent under it with nothing else changed, if it
was sent, and was accepted or rejected only by a verdict on this number. So if each verdict that
arrives is about a request that was sent, and the numbers have not come round, a result reports the
verdict on its own request. -/
theorem verdicts_credited {kernel : Kernel} {config : SocketConfig} {seed : UInt32} {s : Socket}
    (hopen : (Socket.open kernel config seed).result = .ok s) (steps : List Socket.Step) :
    let h := (History.start s).run steps
    (∀ i r, h.requests[i]? = some r →
      r.seq.toNat = (seed.toNat + i) % 2 ^ 32 ∧
      (r.sent = [] ∨ 16 ≤ r.message.length ∧
        r.sent = [r.message.take 8 ++ Bytes.le 4 r.seq.toNat ++ r.message.drop 12]) ∧
      (r.message.length < 16 → r.sent = [] ∧
        r.result = .error (.malformed (.truncatedMessage 16 r.message.length))) ∧
      (r.sent = [] → r.message.length < 16 ∨ ∃ e, r.result = .error (.io e)) ∧
      Credited r.seq r.heard r.result) ∧
    (h.requests.length < 2 ^ 32 → ∀ verdict, h.Faithful verdict →
      ∀ i r, h.requests[i]? = some r →
        (r.result = .ok () → verdict i = 0) ∧
        ∀ code, r.result = .error (.rejected code) →
          verdict i ≠ 0 ∧ code = Reply.opposite (verdict i)) := by
  intro h
  have hn : History.Numbered seed h := History.numbered_run hopen steps
  refine ⟨fun i r hr => ?_, fun hfew verdict hfaithful i r hr => ?_⟩
  · have hproper := hn.proper r (List.mem_of_getElem? hr)
    refine ⟨hn.seq i r hr, ?_, fun hshort => ?_, fun hunsent => ?_, hproper.credited⟩
    · rcases hproper.sent with hsent | ⟨bytes, hstamp, hsent⟩
      · exact Or.inl hsent
      · obtain ⟨hlen, hbytes⟩ := MessageHeader.stamp_eq_ok_iff.mp hstamp
        exact Or.inr ⟨hlen, by rw [hsent, hbytes]⟩
    · exact (hproper.refused _ (MessageHeader.stamp_eq_error_iff.mpr ⟨hshort, rfl⟩)).symm
    · exact (hproper.unsent hunsent).imp_left fun ⟨_, hstamp⟩ =>
        (MessageHeader.stamp_eq_error_iff.mp hstamp).1
  · have hmem := List.mem_of_getElem? hr
    have hcredited := (hn.proper r hmem).credited
    constructor
    · intro hok
      rw [hok] at hcredited
      obtain ⟨d, hlast, hverdict⟩ := hcredited
      have hd := hn.heard r hmem d (List.mem_of_getLast? hlast)
      exact hn.verdict_eq hfew hfaithful hr hd hverdict
    · intro code hrejected
      rw [hrejected] at hcredited
      obtain ⟨d, said, hlast, hne, hcode, hverdict⟩ := hcredited
      have hd := hn.heard r hmem d (List.mem_of_getLast? hlast)
      rw [hn.verdict_eq hfew hfaithful hr hd hverdict]
      exact ⟨hne, hcode⟩

open Socket in
/-- The first request times out, and its acknowledgement arrives only while the second one waits,
whose number has come round to 0. The second one is still rejected. -/
theorem late_acknowledgement_not_credited :
    let message : Bytes := ({ len := 24, pid := Kernel.echoedAddress } : MessageHeader).encode
    let kernel : Kernel := { answers := [[.arrival (.failure .wouldBlock)],
      [.verdict 0 4294967295, .verdict (-1) 0]] }
    let s : Socket := { kernel, address := 4242, nextSeq := 4294967295 }
    let h := (History.start s).run [.request message, .request message]
    let verdict : Nat → Int32 := fun i => if i = 0 then 0 else -1
    (Socket.open kernel {} 4294967295).result = .ok s ∧ h.requests.length < 2 ^ 32 ∧
      h.Faithful verdict ∧
      h.requests.map (·.result) = [.error .timedOut, .error (.rejected 1)] ∧
      ∀ r, h.requests[1]? = some r → r.seq.toNat = 0 ∧
        ∀ code, r.result = .error (.rejected code) → verdict 1 ≠ 0 ∧
          code = Reply.opposite (verdict 1) := by
  intro message kernel s h verdict
  have hopen : (Socket.open kernel {} 4294967295).result = .ok s := rfl
  have hcredited := verdicts_credited hopen [.request message, .request message]
  have hfew : h.requests.length < 2 ^ 32 := by decide +kernel +zetaReduce
  have hsent : h.requests.map (·.sent) = [[message.overwrite 8 [255, 255, 255, 255]], [message]] := by
    decide +kernel +zetaReduce
  have harrived : h.arrived = [Kernel.verdict 0 4294967295, Kernel.verdict (-1) 0] := by
    decide +kernel +zetaReduce
  have hfaithful : h.Faithful verdict := by
    intro d hd m hm _
    have hrequest (i : Nat) (bytes : Bytes) (hi : (h.requests.map (·.sent))[i]? = some [bytes]) :
        ∃ r, h.requests[i]? = some r ∧ bytes ∈ r.sent := by
      rw [List.getElem?_map, Option.map_eq_some_iff] at hi
      obtain ⟨r, hr, hbytes⟩ := hi
      exact ⟨r, hr, by simp [hbytes]⟩
    rw [harrived] at hd
    simp only [List.mem_cons, List.not_mem_nil, or_false] at hd
    rcases hd with rfl | rfl
    · obtain ⟨r, hr, hbytes⟩ := hrequest 0 _ (by rw [hsent]; rfl)
      have hparse : Message.parse (Kernel.verdict 0 4294967295) =
          .ok ⟨{ len := 36, kind := 2 }, (Kernel.verdict 0 4294967295).drop 16⟩ := by decide +kernel
      cases hparse.symm.trans hm
      exact ⟨0, r, _, hr, hbytes, by decide +kernel +zetaReduce, by decide +kernel +zetaReduce⟩
    · obtain ⟨r, hr, hbytes⟩ := hrequest 1 _ (by rw [hsent]; rfl)
      have hparse : Message.parse (Kernel.verdict (-1) 0) =
          .ok ⟨{ len := 36, kind := 2 }, (Kernel.verdict (-1) 0).drop 16⟩ := by decide +kernel
      cases hparse.symm.trans hm
      exact ⟨1, r, _, hr, hbytes, by decide +kernel +zetaReduce, by decide +kernel +zetaReduce⟩
  refine ⟨hopen, hfew, hfaithful, by decide +kernel +zetaReduce, fun r hr => ⟨?_, ?_⟩⟩
  · exact (hcredited.1 1 r hr).1
  · exact (hcredited.2 hfew verdict hfaithful 1 r hr).2

end PacketLog
