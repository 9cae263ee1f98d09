import Mathlib
import PacketLog.Proofs.Iteration
import PacketLog.Proofs.Wire.Frame

set_option autoImplicit false

/-! # Where the messages of a batch stand

The messages of a batch stand one behind the other, each at the multiple of four where the one
before it ends (`Message.placed`, `Message.standsAt_of_split`). Splitting goes on as long as a
message is framed, that is as long as a header declares what is there (`Message.Framed`), and ends
at the end of the bytes or with one error (`Message.exists_messages`). A batch of padded messages
can be cut anywhere between two of them (`Message.Padded.split_append`). -/

namespace PacketLog

namespace Message

/-! ## What stands at a place -/

/-- The bytes start with a header that declares at least itself and no more than there is. -/
structure Framed (bytes : Bytes) : Prop where
  header : MessageHeader.size ≤ bytes.length
  least : MessageHeader.size ≤ Bytes.leValue (bytes.window 0 4)
  most : Bytes.leValue (bytes.window 0 4) ≤ bytes.length

theorem decode_of_length {bytes : Bytes} (h : MessageHeader.size ≤ bytes.length) :
    ∃ header, MessageHeader.decode bytes = .ok header ∧
      header.len.toNat = Bytes.leValue (bytes.window 0 4) := by
  refine ⟨_, if_neg (Nat.not_lt.mpr h), ?_⟩
  have hlen : (bytes.window 0 4).length = 4 := by
    simp only [MessageHeader.size] at h
    simp only [Bytes.window, List.drop_zero, List.length_take]
    omega
  have hlt := Bytes.leValue_lt (bytes.window 0 4)
  rw [hlen] at hlt
  rw [UInt32.toNat_ofNat']
  exact Nat.mod_eq_of_lt hlt

/-- **A message can be read where one is framed**, and nowhere else. -/
theorem exists_parse_iff {bytes : Bytes} : (∃ m, parse bytes = .ok m) ↔ Framed bytes := by
  constructor
  · rintro ⟨m, hm⟩
    obtain ⟨hdecode, hleast, hmost, -⟩ := parse_eq_ok_iff.mp hm
    have hheader : MessageHeader.size ≤ bytes.length := hleast.trans hmost
    obtain ⟨header, hdecode', hlen⟩ := decode_of_length hheader
    rw [hdecode] at hdecode'
    cases hdecode'
    exact ⟨hheader, hlen ▸ hleast, hlen ▸ hmost⟩
  · rintro ⟨hheader, hleast, hmost⟩
    obtain ⟨header, hdecode, hlen⟩ := decode_of_length hheader
    let payload := bytes.window MessageHeader.size (header.len.toNat - MessageHeader.size)
    exact ⟨{ header, payload },
      parse_eq_ok_iff.mpr ⟨hdecode, hlen ▸ hleast, hlen ▸ hmost, rfl⟩⟩

theorem not_framed_of_error {bytes : Bytes} {e : WireError} (h : parse bytes = .error e) :
    ¬ Framed bytes := by
  intro hframed
  obtain ⟨m, hm⟩ := exists_parse_iff.mpr hframed
  rw [h] at hm
  cases hm

/-! ## Places -/

/-- How far a message reaches: up to where the next one starts. -/
def extent (m : Message) : Nat := align m.header.len.toNat

/-- How far some messages reach, one behind the other. -/
def reach (ms : List Message) : Nat := (ms.map extent).sum

/-- Some messages with their places, one behind the other from `start` on. -/
def placed : Nat → List Message → List (Nat × Message)
  | _, [] => []
  | start, m :: ms => (start, m) :: placed (start + m.extent) ms

/-- Where a message can be found in some bytes: the span that it declares starts at a multiple of
four, lies within the bytes, and is read as the message. -/
structure StandsAt (m : Message) (start : Nat) (bytes : Bytes) : Prop where
  aligned : start % 4 = 0
  inside : start + m.header.len.toNat ≤ bytes.length
  read : parse (bytes.window start m.header.len.toNat) = .ok m

theorem reach_cons (m : Message) (ms : List Message) : reach (m :: ms) = m.extent + reach ms :=
  List.sum_cons

theorem le_of_mem_placed {start : Nat} {ms : List Message} {p : Nat × Message}
    (h : p ∈ placed start ms) : start ≤ p.1 := by
  induction ms generalizing start with
  | nil => cases h
  | cons m ms ih =>
      rcases List.mem_cons.mp h with rfl | hrest
      · exact Nat.le_refl _
      · exact (Nat.le_add_right _ _).trans (ih hrest)

/-- **Each message ends before the next one starts.** -/
theorem pairwise_placed (start : Nat) (ms : List Message) :
    (placed start ms).Pairwise (fun p q => p.1 + p.2.header.len.toNat ≤ q.1) := by
  induction ms generalizing start with
  | nil => exact List.Pairwise.nil
  | cons m ms ih =>
      refine List.Pairwise.cons (fun q hq => ?_) (ih _)
      have hlen : m.header.len.toNat ≤ m.extent := le_align _
      exact (Nat.add_le_add_left hlen start).trans (le_of_mem_placed hq)

/-- What is split off first is what is read, and the remainder is split behind it. -/
theorem parse_of_split {bytes : Bytes} {m : Message} {items : List (Except WireError Message)}
    (h : split bytes = .ok m :: items) :
    parse bytes = .ok m ∧ split (bytes.drop m.extent) = items := by
  by_cases hne : bytes = []
  · rw [hne, split_nil] at h
    cases h
  · cases hp : parse bytes with
    | error e =>
        rw [split_of_error hne hp] at h
        cases h
    | ok m' =>
        rw [split_of_ok hp] at h
        cases h
        exact ⟨rfl, rfl⟩

theorem eq_nil_of_split {bytes : Bytes} (h : split bytes = []) : bytes = [] := by
  by_contra hne
  cases hp : parse bytes with
  | error e =>
      rw [split_of_error hne hp] at h
      cases h
  | ok m =>
      rw [split_of_ok hp] at h
      cases h

theorem standsAt_of_split_drop {bytes : Bytes} {start : Nat} (hstart : start % 4 = 0)
    {ms : List Message} {items : List (Except WireError Message)}
    (h : split (bytes.drop start) = ms.map .ok ++ items) :
    ∀ p ∈ placed start ms, p.2.StandsAt p.1 bytes := by
  induction ms generalizing start with
  | nil => exact List.forall_mem_nil _
  | cons m ms ih =>
      obtain ⟨hparse, hrest⟩ := parse_of_split h
      obtain ⟨-, hleast, hmost, -⟩ := parse_eq_ok_iff.mp hparse
      refine List.forall_mem_cons.mpr ⟨⟨hstart, ?_, parse_take hparse⟩, ?_⟩
      · show start + m.header.len.toNat ≤ bytes.length
        simp only [List.length_drop, MessageHeader.size] at hleast hmost
        omega
      · have hextent : m.extent % 4 = 0 := align_mod _
        rw [List.drop_drop] at hrest
        exact ih (by omega) hrest

/-- **Each message of a batch stands at its place.** -/
theorem standsAt_of_split {bytes : Bytes} {ms : List Message}
    {items : List (Except WireError Message)} (h : split bytes = ms.map .ok ++ items) :
    ∀ p ∈ placed 0 ms, p.2.StandsAt p.1 bytes :=
  standsAt_of_split_drop rfl h

/-! ## The end of a batch -/

/-- **A batch is split into messages up to its end or to one error.** The error comes where bytes
are left behind the messages in which no message is framed. -/
theorem exists_messages (bytes : Bytes) :
    ∃ ms : List Message, (split bytes = ms.map .ok ∧ bytes.length ≤ reach ms) ∨
      ∃ e, split bytes = ms.map .ok ++ [.error e] ∧ reach ms < bytes.length ∧
        ¬ Framed (bytes.drop (reach ms)) := by
  induction bytes using split_induction with
  | nil => exact ⟨[], Or.inl ⟨split_nil, Nat.le_refl 0⟩⟩
  | error bytes e hne h =>
      exact ⟨[], Or.inr ⟨e, split_of_error hne h, List.length_pos_iff.mpr hne,
        not_framed_of_error h⟩⟩
  | ok bytes m h ih =>
      obtain ⟨ms, ⟨hsplit, hend⟩ | ⟨e, hsplit, hleft, hframed⟩⟩ := ih
      · refine ⟨m :: ms, Or.inl ⟨?_, ?_⟩⟩
        · rw [split_of_ok h, hsplit, List.map_cons]
        · rw [List.length_drop] at hend
          rw [reach_cons, extent]
          omega
      · refine ⟨m :: ms, Or.inr ⟨e, ?_, ?_, ?_⟩⟩
        · rw [split_of_ok h, hsplit, List.map_cons, List.cons_append]
        · rw [List.length_drop] at hleft
          rw [reach_cons, extent]
          omega
        · rw [reach_cons, extent, ← List.drop_drop]
          exact hframed

/-- **There is at most one item for every sixteen bytes, and an error.** -/
theorem length_split_le (bytes : Bytes) : (split bytes).length ≤ bytes.length / 16 + 1 := by
  induction bytes using split_induction with
  | nil => simp only [split_nil, List.length_nil, Nat.zero_le]
  | error bytes e hne h =>
      rw [split_of_error hne h, List.length_singleton]
      omega
  | ok bytes m h ih =>
      obtain ⟨-, hleast, hmost, -⟩ := parse_eq_ok_iff.mp h
      have hextent := le_align m.header.len.toNat
      rw [split_of_ok h, List.length_cons]
      rw [List.length_drop] at ih
      simp only [MessageHeader.size] at hleast
      by_cases hend : bytes.length ≤ align m.header.len.toNat
      · -- nothing is left behind the message
        rw [List.drop_eq_nil_of_le hend, split_nil, List.length_nil]
        omega
      · omega

/-- **Step by step the splitter yields the items of the batch**, and nothing when they are used
up. -/
theorem next?_iterate_split (k : Nat) (bytes : Bytes) :
    (Splitter.next? ((Iteration.advance Splitter.next?)^[k] { rest := bytes })).map Prod.fst =
      (split bytes)[k]? :=
  Iteration.next?_iterate_advance (fun _ => Splitter.items_of_none)
    (fun _ _ _ => Splitter.items_of_some) k { rest := bytes }

/-! ## Batches of padded messages -/

/-- The bytes are messages, each with all of its padding. -/
structure Padded (bytes : Bytes) : Prop where
  framed : ∃ ms : List Message, split bytes = ms.map .ok
  length : bytes.length % 4 = 0

/-- **A batch of padded messages is split as if what follows were not there.** -/
theorem Padded.split_append {bytes : Bytes} (h : Padded bytes) (rest : Bytes) :
    split (bytes ++ rest) = split bytes ++ split rest := by
  obtain ⟨⟨ms, hsplit⟩, hlen⟩ := h
  induction ms generalizing bytes with
  | nil =>
      obtain rfl := eq_nil_of_split hsplit
      rw [split_nil, List.nil_append, List.nil_append]
  | cons m ms ih =>
      obtain ⟨hparse, hrest⟩ := parse_of_split hsplit
      obtain ⟨-, -, hmost, -⟩ := parse_eq_ok_iff.mp hparse
      have hextent : m.extent ≤ bytes.length := by
        simp only [extent, align]
        omega
      have hmod : (bytes.drop m.extent).length % 4 = 0 := by
        have := align_mod m.header.len.toNat
        rw [List.length_drop, extent]
        omega
      calc split (bytes ++ rest)
          = .ok m :: split ((bytes ++ rest).drop m.extent) := split_of_ok (parse_append hparse rest)
        _ = .ok m :: split (bytes.drop m.extent ++ rest) := by
            rw [List.drop_append_of_le_length hextent]
        _ = .ok m :: (split (bytes.drop m.extent) ++ split rest) := by rw [ih hmod hrest]
        _ = split bytes ++ split rest := by rw [split_of_ok hparse]; rfl

end Message

end PacketLog
