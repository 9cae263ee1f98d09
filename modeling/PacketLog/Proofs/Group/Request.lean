import Mathlib
import PacketLog.Proofs.Group.RoundTrip

set_option autoImplicit false

/-! # Commands as requests

A command's message is written with the number zero, and it gets the number of the request when it
is sent (`MessageHeader.stamp`). The number goes into its own field and nowhere else
(`MessageHeader.stamp_encode`), so a command, its group and its family are read back from every
request that carries it (`command_read_back_from_request`). -/

namespace PacketLog

/-- **A number replaces the number of an encoded header**, and the other fields stay. -/
theorem MessageHeader.stamp_encode (h : MessageHeader) (rest : Bytes) (seq : UInt32) :
    stamp (h.encode ++ rest) seq = .ok (({ h with seq } : MessageHeader).encode ++ rest) := by
  -- the number stands between the first three fields and the address
  let fields : Bytes :=
    Bytes.le 4 h.len.toNat ++ Bytes.le 2 h.kind.toNat ++ Bytes.le 2 h.flags.toNat
  let address : Bytes := Bytes.le 4 h.pid.toNat
  have hfields : fields.length = 8 := by simp [fields]
  have hold : h.encode ++ rest = fields ++ Bytes.le 4 h.seq.toNat ++ (address ++ rest) := by
    simp only [encode, fields, address, List.append_assoc]
  have hroom : size ≤ (h.encode ++ rest).length := by simp
  refine stamp_eq_ok_iff.mpr ⟨hroom, ?_⟩
  have htake : (h.encode ++ rest).take 8 = fields := by
    rw [hold, List.append_assoc, List.take_left' hfields]
  have hdrop : (h.encode ++ rest).drop 12 = address ++ rest := by
    rw [hold, List.drop_left' (by simp [hfields])]
  rw [htake, hdrop]
  simp only [encode, fields, address, List.append_assoc]

/-- A number is written into the ninth to the twelfth byte, and into no other. -/
theorem MessageHeader.getElem?_stamp {msg out : Bytes} {seq : UInt32}
    (h : stamp msg seq = .ok out) {i : Nat} (hi : i < 8 ∨ 12 ≤ i) : out[i]? = msg[i]? := by
  obtain ⟨hsize, rfl⟩ := stamp_eq_ok_iff.mp h
  have htake : (msg.take 8).length = 8 := by
    rw [List.length_take, Nat.min_eq_left (le_trans (by decide) hsize)]
  have hfront : (msg.take 8 ++ Bytes.le 4 seq.toNat).length = 12 := by
    rw [List.length_append, htake, Bytes.length_le]
  rcases hi with hi | hi
  · rw [List.append_assoc, List.getElem?_append_left (by omega), List.getElem?_take_of_lt hi]
  · rw [List.getElem?_append_right (by omega), hfront, List.getElem?_drop, Nat.add_sub_cancel' hi]

namespace GroupCommand

/-- The message that carries a command as the request with the number `seq`. -/
def request (c : GroupCommand) (seq : UInt32) : Bytes :=
  Message.encode { header := { c.header with seq }, payload := c.body }

/-- A command is written as the request with the number zero. -/
theorem encode_eq_request (c : GroupCommand) : c.encode = .ok (c.request 0) :=
  c.encode_eq

theorem stamp_request (c : GroupCommand) (old seq : UInt32) :
    MessageHeader.stamp (c.request old) seq = .ok (c.request seq) :=
  MessageHeader.stamp_encode _ _ seq

theorem length_request (c : GroupCommand) (seq : UInt32) :
    (c.request seq).length = c.header.len.toNat := by
  rw [c.toNat_len_header, request, Message.encode, List.length_append, MessageHeader.length_encode]

theorem decode_header_request (c : GroupCommand) (seq : UInt32) :
    MessageHeader.decode (c.request seq) = .ok { c.header with seq } :=
  MessageHeader.decode_encode _ _

theorem decode_request (c : GroupCommand) (seq : UInt32) (rest : Bytes) :
    decode (c.request seq ++ rest) = .ok c := by
  have hkind : ({ c.header with seq } : MessageHeader).kind = configKind := rfl
  have hlen : ({ c.header with seq } : MessageHeader).len = c.header.len := rfl
  exact decode_encode_of_header hkind hlen rest

/-- Different commands are written differently. -/
theorem encode_injective : Function.Injective encode := by
  intro c c' h
  rw [encode_eq_request, encode_eq_request, Except.ok.injEq] at h
  have hread := c.decode_request 0 []
  rw [h, c'.decode_request] at hread
  cases hread
  rfl

end GroupCommand

/-- **A command is read back from every request that carries it.** It can always be written; its
number changes nothing but the four bytes of the number; the header is that of a configuration
message that asks for an answer; and the command, its group and its family are read back, whatever
follows the request. So different commands have different messages. -/
theorem command_read_back_from_request (c : GroupCommand) :
    ∃ message, c.encode = .ok message ∧
      (∀ seq, ∃ stamped, MessageHeader.stamp message seq = .ok stamped ∧
        stamped.length = message.length ∧
        (∀ i, i < 8 ∨ 12 ≤ i → stamped[i]? = message[i]?) ∧
        (∃ h, MessageHeader.decode stamped = .ok h ∧ h.kind = configKind ∧
          h.flags = MessageHeader.requestFlag ||| MessageHeader.ackFlag ∧
          h.len.toNat = stamped.length ∧ h.seq = seq) ∧
        ∀ rest, GroupCommand.decode (stamped ++ rest) = .ok c) ∧
      ∀ c' : GroupCommand, c'.encode = .ok message → c' = c := by
  refine ⟨c.request 0, c.encode_eq_request, fun seq => ?_, fun c' h => ?_⟩
  · have hstamp := c.stamp_request 0 seq
    refine ⟨c.request seq, hstamp, ?_, ?_, ?_, c.decode_request seq⟩
    · rw [c.length_request, c.length_request]
    · exact fun i => MessageHeader.getElem?_stamp hstamp
    · exact ⟨_, c.decode_header_request seq, rfl, rfl, (c.length_request seq).symm, rfl⟩
  · exact GroupCommand.encode_injective (h.trans c.encode_eq_request.symm)

end PacketLog
