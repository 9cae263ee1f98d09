import Mathlib
import PacketLog.Socket.Basic

set_option autoImplicit false

/-! # What one receive and one send do

A receive makes two calls, and acts as one read of the next datagram (`Socket.receiveDatagram_eq`):
it takes the first of the datagrams that wait at the kernel, as a whole, or takes none and fails
(`Socket.received_receiveDatagram`). An empty datagram is taken, too, and counts as the end.
A send adds to what waits, and a message goes out if and only if it succeeds
(`Socket.sendMessage_cases`). -/

namespace PacketLog

namespace Event

/-- The messages that went out. -/
def sends (events : List Event) : List Bytes :=
  (calls events).filterMap fun
    | .send bytes => some bytes
    | _ => none

@[simp] theorem sends_nil : sends [] = [] := rfl

@[simp] theorem sends_append (earlier later : List Event) :
    sends (earlier ++ later) = sends earlier ++ sends later := by
  simp only [sends, calls, List.filterMap_append]

end Event

/-- The bytes of a datagram. -/
def Arrival.bytes? : Arrival → Option Bytes
  | .datagram bytes _ => some bytes
  | .failure _ => none

namespace Kernel

/-- The datagrams that wait to be read, in the order of their arrival. -/
def waiting (k : Kernel) : List Bytes := k.queue.filterMap Arrival.bytes?

/-- What waits to be read, behind the interruptions that come first. -/
def ahead (k : Kernel) : List Arrival :=
  k.queue.dropWhile (· = .failure .interrupted)

/-- The datagram whose length is reported, if one is. -/
def seen (k : Kernel) : Option Bytes :=
  match k.ahead with
  | .datagram bytes _ :: _ => some bytes
  | _ => none

/-- **The next datagram, read in one piece**, and what is left to be read. An empty datagram counts
as the end. -/
def next (k : Kernel) : Except TransportError Bytes × List Arrival :=
  match k.ahead with
  | [] => (.error .closed, [])
  | .failure e :: later => (.error (Socket.readError e), later)
  | .datagram bytes faults :: later =>
    match faults.dropWhile (· = .interrupted) with
    | [] => (if bytes = [] then .error .closed else .ok bytes, later)
    | e :: faults => (.error (Socket.readError e), .datagram bytes faults :: later)

theorem ahead_of_interrupted {k : Kernel} {later : List Arrival}
    (h : k.queue = .failure .interrupted :: later) :
    k.ahead = ({ k with queue := later } : Kernel).ahead := by
  rw [ahead, h, List.dropWhile_cons_of_pos (by simp)]
  rfl

theorem ahead_of_first {k : Kernel} {a : Arrival} {later : List Arrival}
    (h : k.queue = a :: later) (ha : a ≠ .failure .interrupted) : k.ahead = a :: later := by
  rw [ahead, h, List.dropWhile_cons_of_neg (by simpa using ha)]

theorem waiting_eq_ahead (k : Kernel) : k.waiting = k.ahead.filterMap Arrival.bytes? := by
  rw [waiting, ahead]
  induction k.queue with
  | nil => rfl
  | cons a later ih =>
      by_cases ha : a = .failure .interrupted
      · rw [ha, List.dropWhile_cons_of_pos (by simp), ← ih]
        rfl
      · rw [List.dropWhile_cons_of_neg (by simpa using ha)]

end Kernel

namespace Socket

/-! ## Receiving -/

theorem readError_ne_rejected (e : OsError) (code : Int32) : readError e ≠ .rejected code := by
  unfold readError
  split
  · simp
  · split <;> simp

theorem sends_readErrorEvents (e : OsError) : Event.sends (readErrorEvents e) = [] := by
  unfold readErrorEvents
  split <;> rfl

/-- **Asking for the length of the next datagram** takes nothing. It gets past the interruptions, and
a failure behind them is used up. -/
theorem peekLength_eq (k : Kernel) :
    (peekLength k).result = (match k.ahead with
      | [] => .ok 0
      | .datagram bytes _ :: _ => .ok bytes.length
      | .failure e :: _ => .error (readError e)) ∧
    (peekLength k).state = { k with queue := match k.ahead with
      | .failure _ :: later => later
      | queue => queue } ∧
    Event.sends (peekLength k).events = [] := by
  fun_induction peekLength k with
  | case1 k o n h =>
      simp only [o, Kernel.peek] at h ⊢
      split at h
      · rename_i hq
        cases h
        simp only [Kernel.ahead, hq, List.dropWhile_nil, true_and]
        rw [← hq]
        exact ⟨rfl, rfl⟩
      · rename_i bytes faults later hq
        cases h
        simp only [Kernel.ahead_of_first hq (by simp), true_and]
        rw [← hq]
        exact ⟨rfl, rfl⟩
      · cases h
  | case2 k o h ih =>
      simp only [o, Kernel.peek] at h ih ⊢
      split at h
      · cases h
      · cases h
      · rename_i hq
        cases h
        simp only [hq] at ih
        rw [Kernel.ahead_of_interrupted hq]
        exact ih
  | case3 k o e h hne =>
      simp only [o, Kernel.peek] at h ⊢
      split at h
      · cases h
      · cases h
      · rename_i hq
        cases h
        rw [Kernel.ahead_of_first hq (by simpa using hne), Event.sends_append,
          sends_readErrorEvents]
        exact ⟨rfl, rfl, rfl⟩

theorem readDatagram_of_ok {room : Nat} {k : Kernel} {bytes : Bytes}
    (h : (k.read room).result = .ok bytes) :
    readDatagram room k =
      { result := .ok bytes, state := (k.read room).state, events := (k.read room).events } := by
  rw [readDatagram]
  split
  · rename_i h'
    rw [h] at h'
    cases h'
    rfl
  · rename_i h'
    rw [h] at h'
    cases h'

theorem readDatagram_of_error {room : Nat} {k : Kernel} {e : OsError}
    (h : (k.read room).result = .error e) :
    readDatagram room k =
      if e = .interrupted then (readDatagram room (k.read room).state).after (k.read room).events
      else { result := .error (readError e), state := (k.read room).state
             events := (k.read room).events ++ readErrorEvents e } := by
  rw [readDatagram]
  split
  · rename_i h'
    rw [h] at h'
    cases h'
  · rename_i h'
    rw [h] at h'
    cases h'
    rfl

/-- **Reading with room for the next datagram** takes it as a whole, or takes nothing and fails. It
gets past the interruptions. -/
theorem readDatagram_eq {room : Nat} {k : Kernel} {bytes : Bytes} {faults : List OsError}
    {later : List Arrival} (hq : k.queue = .datagram bytes faults :: later)
    (hroom : bytes.length ≤ room) :
    let behind := faults.dropWhile (· = .interrupted)
    (readDatagram room k).result = (match behind with
      | [] => .ok bytes
      | e :: _ => .error (readError e)) ∧
    (readDatagram room k).state = { k with queue := match behind with
      | [] => later
      | _ :: faults => .datagram bytes faults :: later } ∧
    Event.sends (readDatagram room k).events = [] := by
  -- each fault is used up by one call
  induction faults generalizing k with
  | nil =>
      have hread : k.read room = { result := .ok (bytes.take room), state := { k with queue := later }
                                   events := [.call (.receive bytes.length room)] } := by
        simp only [Kernel.read, hq]
      rw [readDatagram_of_ok (congrArg Outcome.result hread), hread,
        List.take_of_length_le hroom]
      exact ⟨rfl, rfl, rfl⟩
  | cons e faults ih =>
      let next : Kernel := { k with queue := .datagram bytes faults :: later }
      have hread : k.read room =
          { result := .error e, state := next, events := [.call (.receiveFailed e)] } := by
        simp only [Kernel.read, hq, next]
      rw [readDatagram_of_error (congrArg Outcome.result hread), hread]
      by_cases he : e = .interrupted
      · rw [if_pos he, List.dropWhile_cons_of_pos (by simpa using he)]
        exact ih (k := next) rfl
      · rw [if_neg he, List.dropWhile_cons_of_neg (by simpa using he), Event.sends_append,
          sends_readErrorEvents]
        exact ⟨rfl, rfl, rfl⟩

/-- When nothing waits, a read gives no bytes. -/
theorem readDatagram_of_empty {room : Nat} {k : Kernel} (hq : k.queue = []) :
    readDatagram room k = { result := .ok [], state := k } := by
  have hread : k.read room = { result := .ok [], state := k } := by
    simp only [Kernel.read, hq]
  rw [readDatagram_of_ok (congrArg Outcome.result hread), hread]

theorem le_roomFor (size : Nat) : size ≤ roomFor size := by
  unfold roomFor
  split
  · omega
  · exact Nat.le_refl size

theorem le_fit (c : SocketConfig) (len : Nat) : len ≤ (c.fit len).maxMessageSize :=
  Nat.le_max_right _ _

theorem fit_zero (c : SocketConfig) : c.fit 0 = c := by
  rw [SocketConfig.fit, Nat.max_zero]

/-- After the length of the next datagram is known, there is room for it. -/
theorem receiveDatagram_of_peeked {s : Socket} {len : Nat}
    (h : (peekLength s.kernel).result = .ok len) :
    let config := s.config.fit len
    let read := readDatagram (roomFor config.maxMessageSize) (peekLength s.kernel).state
    let o := s.receiveDatagram
    (o.result = match read.result with
      | .ok [] => .error .closed
      | r => r) ∧
      o.state = { s with kernel := read.state, config } ∧
      Event.sends o.events = Event.sends (peekLength s.kernel).events ++ Event.sends read.events := by
  let place (k : Kernel) : Socket := { s with kernel := k }
  have hpeeked : ((peekLength s.kernel).within place).result = .ok len := h
  rw [receiveDatagram, Outcome.andThen_of_ok hpeeked]
  refine ⟨rfl, rfl, ?_⟩
  simp only [Outcome.events_after, Outcome.events_mapResult, Outcome.events_within,
    Event.sends_append]
  split <;> rfl

theorem receiveDatagram_of_unpeeked {s : Socket} {e : TransportError}
    (h : (peekLength s.kernel).result = .error e) :
    s.receiveDatagram = { result := .error e, state := { s with kernel := (peekLength s.kernel).state }
                          events := (peekLength s.kernel).events } := by
  let place (k : Kernel) : Socket := { s with kernel := k }
  have hpeeked : ((peekLength s.kernel).within place).result = .error e := h
  rw [receiveDatagram, Outcome.andThen_of_error hpeeked]
  rfl

/-- **The two calls of a receive see the same datagram**: the result and what is left are those of a
read in one piece. Besides the queue only the room changes, which fits the datagram. -/
theorem receiveDatagram_eq (s : Socket) :
    s.receiveDatagram.result = s.kernel.next.1 ∧
      s.receiveDatagram.state = { s with
        kernel := { s.kernel with queue := s.kernel.next.2 }
        config := s.config.fit ((s.kernel.seen.map List.length).getD 0) } ∧
      Event.sends s.receiveDatagram.events = [] := by
  obtain ⟨hlength, hpeeked, hpeeksends⟩ := peekLength_eq s.kernel
  cases hahead : s.kernel.ahead with
  | nil =>
      rw [hahead] at hlength hpeeked
      obtain ⟨hresult, hstate, hsends⟩ := receiveDatagram_of_peeked hlength
      rw [hpeeked, readDatagram_of_empty rfl] at hresult hstate hsends
      rw [hresult, hstate, hsends, hpeeksends, Kernel.next, Kernel.seen, hahead]
      exact ⟨rfl, rfl, rfl⟩
  | cons a later =>
      cases a with
      | failure e =>
          rw [hahead] at hlength hpeeked
          rw [receiveDatagram_of_unpeeked hlength, hpeeked, Kernel.next, Kernel.seen, hahead]
          refine ⟨rfl, ?_, hpeeksends⟩
          rw [Option.map_none, Option.getD_none, fit_zero]
      | datagram bytes faults =>
          rw [hahead] at hlength hpeeked
          obtain ⟨hresult, hstate, hsends⟩ := receiveDatagram_of_peeked hlength
          have hroom : bytes.length ≤ roomFor (s.config.fit bytes.length).maxMessageSize :=
            (le_fit s.config _).trans (le_roomFor _)
          obtain ⟨hread, hleft, hreadsends⟩ := readDatagram_eq
            (k := { s.kernel with queue := .datagram bytes faults :: later }) rfl hroom
          rw [hpeeked] at hresult hstate hsends
          rw [hresult, hstate, hsends, hread, hleft, hreadsends, hpeeksends, Kernel.next, Kernel.seen,
            hahead]
          dsimp only
          cases faults.dropWhile (· = .interrupted) with
          | nil => cases bytes <;> exact ⟨rfl, rfl, rfl⟩
          | cons e faults => exact ⟨rfl, rfl, rfl⟩

/-- What a receive from the kernel does: it takes the first of the datagrams that wait, or takes
nothing and fails. An empty datagram is taken for the end. -/
structure Received (s : Socket) (o : Outcome Socket (Except TransportError Bytes)) : Prop where
  pending : o.state.pending = s.pending
  nextSeq : o.state.nextSeq = s.nextSeq
  sends : Event.sends o.events = []
  taken : match o.result with
    | .ok d => d ≠ [] ∧ s.kernel.waiting = d :: o.state.kernel.waiting
    | .error e => (∀ code, e ≠ .rejected code) ∧
        (s.kernel.waiting = o.state.kernel.waiting ∨
          e = .closed ∧ s.kernel.waiting = [] :: o.state.kernel.waiting)

/-- **A receive takes one datagram as a whole, or none.** -/
theorem received_receiveDatagram (s : Socket) : Received s s.receiveDatagram := by
  obtain ⟨hresult, hstate, hsends⟩ := s.receiveDatagram_eq
  refine ⟨by rw [hstate], by rw [hstate], hsends, ?_⟩
  rw [hresult, hstate, Kernel.waiting_eq_ahead, Kernel.next]
  cases s.kernel.ahead with
  | nil => exact ⟨by simp, Or.inl rfl⟩
  | cons a later =>
      cases a with
      | failure e => exact ⟨readError_ne_rejected e, Or.inl rfl⟩
      | datagram bytes faults =>
          dsimp only
          cases faults.dropWhile (· = .interrupted) with
          | cons e faults => exact ⟨readError_ne_rejected e, Or.inl rfl⟩
          | nil =>
              by_cases hempty : bytes = []
              · rw [hempty, if_pos rfl]
                exact ⟨by simp, Or.inr ⟨rfl, rfl⟩⟩
              · rw [if_neg hempty]
                exact ⟨hempty, rfl⟩

/-! ## Sending -/

/-- A call that sends fails, or the message goes out and what the kernel answers comes to wait. -/
theorem send_cases (bytes : Bytes) (k : Kernel) :
    (∃ e, (k.send bytes).result = .error e ∧ Event.sends (k.send bytes).events = [] ∧
        (k.send bytes).state.waiting = k.waiting) ∨
      ∃ answers, (k.send bytes).result = .ok () ∧ Event.sends (k.send bytes).events = [bytes] ∧
        (k.send bytes).state.waiting = k.waiting ++ answers := by
  unfold Kernel.send
  split
  · exact Or.inl ⟨_, rfl, rfl, rfl⟩
  · exact Or.inr ⟨_, rfl, rfl, List.filterMap_append⟩

/-- **A message goes out if and only if the send succeeds**, and once only. What waits to be read
stays, and the answers join it. -/
theorem sendMessage_cases (bytes : Bytes) (k : Kernel) :
    let o := sendMessage bytes k
    (∃ e, o.result = .error (.io e) ∧ Event.sends o.events = [] ∧ o.state.waiting = k.waiting) ∨
      ∃ answers, o.result = .ok () ∧ Event.sends o.events = [bytes] ∧
        o.state.waiting = k.waiting ++ answers := by
  fun_induction sendMessage bytes k with
  | case1 k o u h =>
      rcases send_cases bytes k with ⟨e, herr, -, -⟩ | ⟨answers, -, hsends, hwaiting⟩
      · cases h.symm.trans herr
      · exact Or.inr ⟨answers, rfl, hsends, hwaiting⟩
  | case2 k o h ih =>
      rcases send_cases bytes k with ⟨e, -, hsends, hwaiting⟩ | ⟨answers, hok, -, -⟩
      · have hevents : Event.sends (o.events ++ (sendMessage bytes o.state).events) =
            Event.sends (sendMessage bytes o.state).events := by
          rw [Event.sends_append, hsends, List.nil_append]
        rcases ih with ⟨e', herr, hs, hw⟩ | ⟨answers, hok, hs, hw⟩
        · exact Or.inl ⟨e', herr, hevents.trans hs, hw.trans hwaiting⟩
        · refine Or.inr ⟨answers, hok, hevents.trans hs, ?_⟩
          rw [← hwaiting]
          exact hw
      · cases h.symm.trans hok
  | case3 k o e h hne =>
      rcases send_cases bytes k with ⟨e', herr, hsends, hwaiting⟩ | ⟨answers, hok, -, -⟩
      · exact Or.inl ⟨e, rfl, hsends, hwaiting⟩
      · cases h.symm.trans hok

end Socket

end PacketLog
