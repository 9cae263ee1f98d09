import Mathlib
import PacketLog.Transport.Reply

set_option autoImplicit false

/-! # Verdicts

A datagram is a verdict on a request if its first message carries an error code and echoes the
request's number (`Reply.IsVerdict`). Only a verdict on the request that waits is classified as an
acknowledgement or as a rejection (`Reply.classify_spec`). -/

namespace PacketLog

namespace Reply

/-- The datagram says `code` about the request with number `seq`. -/
def IsVerdict (d : Bytes) (code : Int32) (seq : UInt32) : Prop :=
  ∃ m, Message.parse d = .ok m ∧ m.errorCode = .ok (some code) ∧ m.ackedSeq = some seq

variable {d : Bytes} {seq : UInt32}

theorem classify_of_unparsed {e : WireError} (h : Message.parse d = .error e) :
    classify d seq = .error (.malformed e) := by
  rw [classify, h]
  rfl

theorem classify_of_parsed {m : Message} (h : Message.parse d = .ok m) :
    classify d seq =
      match m.errorCode with
      | .error e => .error (.malformed e)
      | .ok none => .ok .unrelated
      | .ok (some code) =>
        match m.ackedSeq with
        | none =>
          .error (.malformed (.truncatedMessage (4 + MessageHeader.size) m.payload.length))
        | some acked =>
          if acked ≠ seq then .ok (.stale acked)
          else if code = 0 then .ok .ack
          else .ok (.rejected (opposite code)) := by
  rw [classify, h]
  simp only [Except.mapError, bind, Except.bind]
  rcases m.errorCode with e | code | code
  · rfl
  · rfl
  · rfl

/-- **What a classification says** about the datagram. -/
theorem classify_spec (d : Bytes) (seq : UInt32) :
    match classify d seq with
    | .error e => ∃ error, e = .malformed error
    | .ok .ack => IsVerdict d 0 seq
    | .ok (.rejected code) => ∃ verdict, verdict ≠ 0 ∧ code = opposite verdict ∧
        IsVerdict d verdict seq
    | .ok (.stale acked) => acked ≠ seq
    | .ok .unrelated => True := by
  cases hm : Message.parse d with
  | error e =>
      rw [classify_of_unparsed hm]
      exact ⟨e, rfl⟩
  | ok m =>
      rw [classify_of_parsed hm]
      rcases hcode : m.errorCode with e | code | code
      · exact ⟨e, rfl⟩
      · trivial
      · cases hacked : m.ackedSeq with
        | none => exact ⟨_, rfl⟩
        | some acked =>
            by_cases hseq : acked = seq
            · subst hseq
              by_cases hzero : code = 0
              · subst hzero
                simpa using ⟨m, hm, hcode, hacked⟩
              · simpa [hzero] using ⟨code, hzero, rfl, m, hm, hcode, hacked⟩
            · simp [hseq]

end Reply

end PacketLog
