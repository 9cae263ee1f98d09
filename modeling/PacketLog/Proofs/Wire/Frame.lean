import Mathlib
import PacketLog.Proofs.Bytes
import PacketLog.Wire.Message

set_option autoImplicit false

/-! # Framing of messages

When a message is read from the start of some bytes, only the bytes that its header declares
are looked at (`Message.parse_congr`), and a message that declares its own length is read back
whatever follows it (`Message.parse_encode`). `Message.split` is determined by three equations,
one for each thing that can stand at a place of a batch, and `Message.split_induction` is the
induction along them. -/

namespace PacketLog

namespace Bytes

/-- A window is not changed by cutting the string behind it. -/
theorem window_take {bs : Bytes} {start count n : Nat} (h : start + count ≤ n) :
    window (bs.take n) start count = bs.window start count := by
  rw [window, window, List.drop_take, List.take_take, Nat.min_eq_left (by omega)]

theorem window_congr {a b : Bytes} {start count n : Nat} (hab : a.take n = b.take n)
    (h : start + count ≤ n) : a.window start count = b.window start count := by
  rw [← window_take h, hab, window_take h]

end Bytes

namespace MessageHeader

/-- Only the first sixteen bytes are read. -/
theorem decode_congr {a b : Bytes} (ha : size ≤ a.length) (hb : size ≤ b.length)
    (hab : a.take size = b.take size) : decode a = decode b := by
  unfold decode
  rw [if_neg (Nat.not_lt.mpr ha), if_neg (Nat.not_lt.mpr hb),
    Bytes.window_congr hab (show 0 + 4 ≤ size by decide),
    Bytes.window_congr hab (show 4 + 2 ≤ size by decide),
    Bytes.window_congr hab (show 6 + 2 ≤ size by decide),
    Bytes.window_congr hab (show 8 + 4 ≤ size by decide),
    Bytes.window_congr hab (show 12 + 4 ≤ size by decide)]

/-- A number replaces four bytes of a message that has room for a header. -/
theorem stamp_eq_ok_iff {msg out : Bytes} {seq : UInt32} :
    stamp msg seq = .ok out ↔
      size ≤ msg.length ∧ out = msg.take 8 ++ Bytes.le 4 seq.toNat ++ msg.drop 12 := by
  unfold stamp
  split
  · rename_i h
    simp [Nat.not_le.mpr h]
  · rename_i h
    rw [Bytes.overwrite, Bytes.length_le, Except.ok.injEq, eq_comm]
    exact (and_iff_right (Nat.not_lt.mp h)).symm

theorem stamp_eq_error_iff {msg : Bytes} {seq : UInt32} {e : WireError} :
    stamp msg seq = .error e ↔ msg.length < size ∧ e = .truncatedMessage size msg.length := by
  unfold stamp
  split
  · rename_i h
    rw [Except.error.injEq, eq_comm]
    exact (and_iff_right h).symm
  · rename_i h
    simp [h]

/-- The number is read back from the message that it was written into. -/
theorem seq_of_stamp {msg out : Bytes} {seq : UInt32} {h : MessageHeader}
    (hstamp : stamp msg seq = .ok out) (hdecode : decode out = .ok h) : h.seq = seq := by
  obtain ⟨hlen, hout⟩ := stamp_eq_ok_iff.mp hstamp
  have htake : (msg.take 8).length = 8 := by
    rw [List.length_take, Nat.min_eq_left (le_trans (by decide) hlen)]
  have hwindow : out.window 8 4 = Bytes.le 4 seq.toNat :=
    Bytes.window_middle _ _ _ hout htake (Bytes.length_le _ _)
  unfold decode at hdecode
  split at hdecode
  · cases hdecode
  · cases hdecode
    have hlt : seq.toNat < Bytes.capacity 4 := seq.toNat_lt
    show UInt32.ofNat (Bytes.leValue (out.window 8 4)) = seq
    rw [hwindow, Bytes.leValue_le, Nat.mod_eq_of_lt hlt, UInt32.ofNat_toNat]

end MessageHeader

namespace Message

/-! ## One message -/

/-- **When a message can be read**: its header is there and declares at least itself and no
more than there is. -/
theorem parse_eq_ok_iff {bytes : Bytes} {m : Message} :
    parse bytes = .ok m ↔
      MessageHeader.decode bytes = .ok m.header ∧ MessageHeader.size ≤ m.header.len.toNat ∧
        m.header.len.toNat ≤ bytes.length ∧
        m.payload = bytes.window MessageHeader.size (m.header.len.toNat - MessageHeader.size) := by
  obtain ⟨header, payload⟩ := m
  unfold parse
  cases hd : MessageHeader.decode bytes with
  | error e => simp [bind, Except.bind]
  | ok h =>
      simp only [bind, Except.bind]
      split
      · rename_i hlen
        constructor
        · intro h'
          cases h'
        · rintro ⟨h', h1, h2, -⟩
          cases h'
          omega
      · rename_i hlen
        constructor
        · intro h'
          cases h'
          exact ⟨rfl, by omega, by omega, rfl⟩
        · rintro ⟨h', -, -, h3⟩
          cases h'
          rw [h3]

/-- **Reading a message looks at its own bytes only.** -/
theorem parse_congr {a b : Bytes} {m : Message} (h : parse a = .ok m)
    (hab : b.take m.header.len.toNat = a.take m.header.len.toNat) : parse b = .ok m := by
  obtain ⟨hdec, hsize, hlen, hpay⟩ := parse_eq_ok_iff.mp h
  have hb : m.header.len.toNat ≤ b.length := by
    have := congrArg List.length hab
    simp only [List.length_take] at this
    omega
  have htake : b.take MessageHeader.size = a.take MessageHeader.size := by
    have := congrArg (List.take MessageHeader.size) hab
    simpa only [List.take_take, Nat.min_eq_left hsize] using this
  refine parse_eq_ok_iff.mpr ⟨?_, hsize, hb, ?_⟩
  · rw [MessageHeader.decode_congr (hsize.trans hb) (hsize.trans hlen) htake, hdec]
  · rw [hpay, Bytes.window_congr hab (by omega)]

/-- The bytes of a message alone are that message. -/
theorem parse_take {bytes : Bytes} {m : Message} (h : parse bytes = .ok m) :
    parse (bytes.take m.header.len.toNat) = .ok m := by
  apply parse_congr h
  rw [List.take_take, Nat.min_self]

/-- What follows a message does not matter. -/
theorem parse_append {bytes : Bytes} {m : Message} (h : parse bytes = .ok m) (rest : Bytes) :
    parse (bytes ++ rest) = .ok m := by
  apply parse_congr h
  rw [List.take_append_of_le_length (parse_eq_ok_iff.mp h).2.2.1]

theorem ne_nil_of_parse {bytes : Bytes} {m : Message} (h : parse bytes = .ok m) :
    bytes ≠ [] := by
  rintro rfl
  cases h

/-- The bytes of a message. -/
def encode (m : Message) : Bytes := m.header.encode ++ m.payload

/-- A message whose header declares its length is read back, whatever follows it. -/
theorem parse_encode {m : Message} (h : m.header.len.toNat = MessageHeader.size + m.payload.length)
    (rest : Bytes) : parse (m.encode ++ rest) = .ok m := by
  have hdec : MessageHeader.decode (m.encode ++ rest) = .ok m.header := by
    rw [encode, List.append_assoc, MessageHeader.decode_encode]
  refine parse_eq_ok_iff.mpr ⟨hdec, by omega, ?_, ?_⟩
  · simp only [encode, List.length_append, MessageHeader.length_encode]
    omega
  · rw [h, Nat.add_sub_cancel_left, Bytes.window, encode, List.append_assoc,
      List.drop_left' (MessageHeader.length_encode _), List.take_left]

/-! ## Batches -/

namespace Splitter

theorem next?_of_ok {bytes : Bytes} {m : Message} (h : parse bytes = .ok m) :
    ({ rest := bytes } : Splitter).next? =
      some (.ok m, { rest := bytes.drop (align m.header.len.toNat) }) := by
  cases bytes with
  | nil => exact absurd rfl (ne_nil_of_parse h)
  | cons b bs => simp only [next?, h]

theorem next?_of_error {bytes : Bytes} {e : WireError} (hne : bytes ≠ [])
    (h : parse bytes = .error e) :
    ({ rest := bytes } : Splitter).next? = some (.error e, { rest := [] }) := by
  cases bytes with
  | nil => exact absurd rfl hne
  | cons b bs => simp only [next?, h]

theorem items_of_some {s t : Splitter} {item : Except WireError Message}
    (h : s.next? = some (item, t)) : s.items = item :: t.items := by
  rw [items]
  split
  · rename_i hs
    rw [h] at hs
    cases hs
  · rename_i hs
    rw [h] at hs
    cases hs
    rfl

theorem items_of_none {s : Splitter} (h : s.next? = none) : s.items = [] := by
  rw [items]
  split
  · rfl
  · rename_i hs
    rw [h] at hs
    cases hs

end Splitter

@[simp] theorem split_nil : split [] = [] := by
  rw [split, Splitter.items]
  rfl

theorem split_of_ok {bytes : Bytes} {m : Message} (h : parse bytes = .ok m) :
    split bytes = .ok m :: split (bytes.drop (align m.header.len.toNat)) :=
  Splitter.items_of_some (Splitter.next?_of_ok h)

theorem split_of_error {bytes : Bytes} {e : WireError} (hne : bytes ≠ [])
    (h : parse bytes = .error e) : split bytes = [.error e] := by
  rw [split, Splitter.items_of_some (Splitter.next?_of_error hne h)]
  exact congrArg (List.cons _) split_nil

/-- The remainder of a batch behind its first message is shorter than the batch. -/
theorem length_drop_align_lt {bytes : Bytes} {m : Message} (h : parse bytes = .ok m) :
    (bytes.drop (align m.header.len.toNat)).length < bytes.length :=
  Splitter.rest_lt_of_next? (Splitter.next?_of_ok h)

/-- **Induction along a batch**: nothing is left, what is left cannot be read, or a message
stands before the remainder. -/
theorem split_induction {motive : Bytes → Prop} (nil : motive [])
    (error : ∀ (bytes : Bytes) (e : WireError), bytes ≠ [] → parse bytes = .error e →
      motive bytes)
    (ok : ∀ (bytes : Bytes) (m : Message), parse bytes = .ok m →
      motive (bytes.drop (align m.header.len.toNat)) → motive bytes) :
    ∀ bytes : Bytes, motive bytes := by
  intro bytes
  induction hn : bytes.length using Nat.strong_induction_on generalizing bytes with
  | _ n ih =>
      by_cases hne : bytes = []
      · exact hne ▸ nil
      · cases hp : parse bytes with
        | error e => exact error bytes e hne hp
        | ok m => exact ok bytes m hp (ih _ (hn ▸ length_drop_align_lt hp) _ rfl)

/-- A batch that ends in a message begins in the same way, whatever is appended to it. -/
theorem split_append {a : Bytes} {pre : List (Except WireError Message)} {m : Message}
    (h : split a = pre ++ [.ok m]) (b : Bytes) :
    ∃ post, split (a ++ b) = pre ++ .ok m :: post := by
  induction a using split_induction generalizing pre with
  | nil => simp at h
  | error bytes e hne hp =>
      rw [split_of_error hne hp] at h
      cases pre with
      | nil => cases h
      | cons x pre => simp at h
  | ok bytes m' hp ih =>
      rw [split_of_ok hp] at h
      rw [split_of_ok (parse_append hp b)]
      cases pre with
      | nil =>
          obtain ⟨rfl⟩ : m' = m := by simpa using (List.cons.inj h).1
          exact ⟨_, rfl⟩
      | cons x pre =>
          obtain ⟨rfl, htail⟩ := List.cons.inj h
          -- something is left behind the first message, so its padding lies within `bytes`
          have hlen : align m'.header.len.toNat ≤ bytes.length := by
            by_contra hlt
            rw [List.drop_eq_nil_of_le (by omega), split_nil] at htail
            simp at htail
          obtain ⟨post, hpost⟩ := ih htail
          rw [List.drop_append_of_le_length hlen, hpost]
          exact ⟨post, rfl⟩

end Message

end PacketLog
