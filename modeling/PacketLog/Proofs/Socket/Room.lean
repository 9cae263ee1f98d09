import Mathlib
import PacketLog.Proofs.Socket.History

set_option autoImplicit false

/-! # Room for every datagram

A receive makes two calls, one that asks for the length of the next datagram and one that reads it,
and each is made again when it is interrupted. Together they do what a single read of the whole
datagram would do (`Socket.asOne_receiveDatagram`), since the room for it has grown in between. The
room never shrinks, and it is what the longest datagram, the largest reservation or the
configuration asked for (`datagrams_never_cut`). -/

namespace PacketLog

namespace Socket

/-! ## One receive -/

/-- **A receive, as if it were a single read**: it takes the whole of the next datagram, or takes
nothing and fails. Besides the queue only the room changes, which fits the datagram. An empty
datagram counts as the end. -/
structure AsOne (s : Socket) (o : Outcome Socket (Except TransportError Bytes)) : Prop where
  result : o.result = s.kernel.next.1
  state : o.state = { s with
    kernel := { s.kernel with queue := s.kernel.next.2 }
    config := s.config.fit ((s.kernel.seen.map List.length).getD 0) }
  whole : ∀ d, o.result = .ok d → s.kernel.waiting = d :: o.state.kernel.waiting
  nothing : ∀ e, o.result = .error e → e ≠ .closed ∨ [] ∉ s.kernel.waiting →
    o.state.kernel.waiting = s.kernel.waiting

theorem asOne_receiveDatagram (s : Socket) : AsOne s s.receiveDatagram := by
  obtain ⟨hresult, hstate, -⟩ := s.receiveDatagram_eq
  have htaken := s.received_receiveDatagram.taken
  refine ⟨hresult, hstate, fun d hd => ?_, fun e he hne => ?_⟩
  · rw [hd] at htaken
    exact htaken.2
  · rw [he] at htaken
    obtain ⟨-, hnone | ⟨hclosed, hempty⟩⟩ := htaken
    · exact hnone.symm
    · rw [hempty] at hne
      exact absurd hne (by simp [hclosed])

/-! ## Receives of a run -/

/-- The sockets at the receives of a wait, each as it stands before its receive. -/
def rounds (seq : UInt32) (s : Socket) : List Socket :=
  let o := s.receiveDatagram
  match _ : o.result with
  | .error _ => [s]
  | .ok datagram =>
    match Reply.classify datagram seq with
    | .error _ => [s]
    | .ok .ack => [s]
    | .ok (.rejected _) => [s]
    | .ok (.stale _) => s :: rounds seq o.state
    | .ok .unrelated => s :: rounds seq (o.state.keep datagram).state
termination_by s.kernel.backlog
decreasing_by
  · exact (backlog_receiveDatagram s).1 datagram (by assumption)
  · rw [kernel_keep]
    exact (backlog_receiveDatagram s).1 datagram (by assumption)

theorem rounds_of_error {seq : UInt32} {s : Socket} {e : TransportError}
    (h : s.receiveDatagram.result = .error e) : s.rounds seq = [s] := by
  rw [rounds]
  split
  · rfl
  · rename_i h'
    cases h.symm.trans h'

theorem rounds_of_ok {seq : UInt32} {s : Socket} {datagram : Bytes}
    (h : s.receiveDatagram.result = .ok datagram) :
    s.rounds seq = match Reply.classify datagram seq with
      | .error _ => [s]
      | .ok .ack => [s]
      | .ok (.rejected _) => [s]
      | .ok (.stale _) => s :: s.receiveDatagram.state.rounds seq
      | .ok .unrelated => s :: (s.receiveDatagram.state.keep datagram).state.rounds seq := by
  rw [rounds]
  split
  · rename_i h'
    cases h.symm.trans h'
  · rename_i h'
    obtain rfl := Except.ok.inj (h.symm.trans h')
    rfl

/-- The sockets at the receives of a step. A request that does not go out does not wait, and what is
held back is not received again. -/
def receivers (s : Socket) : Step → List Socket
  | .request message =>
    match MessageHeader.stamp message s.nextSeq with
    | .error _ => []
    | .ok bytes =>
      let sent := sendMessage bytes s.kernel
      match sent.result with
      | .error _ => []
      | .ok _ => rounds s.nextSeq { s with nextSeq := s.nextSeq + 1, kernel := sent.state }
  | .receive => if s.pending = [] then [s] else []
  | _ => []

/-- The sizes that a step reserves room for. -/
def Step.reserved : Step → Set Nat
  | .reserve size => {size}
  | _ => ∅

/-- The sockets at the receives of a run. -/
def History.receivers (h : History) : List Step → List Socket
  | [] => []
  | x :: steps => h.socket.receivers x ++ (h.step x).receivers steps

/-! ## From one socket to a later one -/

/-- The sizes that there has to be room for: those that were reserved, and the lengths of the
datagrams that the receives saw. -/
def sizes (reserved : Set Nat) (receivers : List Socket) : Set Nat :=
  {n | n ∈ reserved ∨ ∃ t ∈ receivers, ∃ d, t.kernel.seen = some d ∧ d.length = n}

theorem sizes_append (reserved reserved' : Set Nat) (receivers receivers' : List Socket) :
    sizes (reserved ∪ reserved') (receivers ++ receivers') =
      sizes reserved receivers ∪ sizes reserved' receivers' := by
  ext n
  simp only [sizes, List.mem_append, Set.mem_union, Set.mem_ofPred_eq, or_and_right, exists_or]
  exact or_or_or_comm

/-- The room that there is for a datagram. -/
def room (s : Socket) : Nat := s.config.maxMessageSize

/-- **From `s` to `t`** the datagrams `new` came to wait, and `receivers` are the sockets at the
receives. These delivered what no longer waits, and the room is the greatest of what it was and what
it had to be. -/
structure Between (s t : Socket) (new : List Bytes) (reserved : Set Nat)
    (receivers : List Socket) : Prop where
  delivered : (s.kernel.waiting ++ new).filter (· ≠ []) =
    receivers.filterMap (·.receiveDatagram.result.toOption) ++
      t.kernel.waiting.filter (· ≠ [])
  grown : IsGreatest (insert s.room (sizes reserved receivers)) t.room

namespace Between

variable {s t u : Socket} {new new' : List Bytes} {reserved reserved' : Set Nat}
  {receivers receivers' : List Socket}

theorem of_waiting (hwaiting : t.kernel.waiting = s.kernel.waiting ++ new)
    (hroom : t.room = s.room) : Between s t new ∅ [] where
  delivered := by rw [hwaiting]; rfl
  grown := by
    have hsizes : sizes ∅ [] = ∅ := by
      simp only [sizes, Set.mem_empty_iff_false, List.not_mem_nil, false_and, exists_false, or_self,
        Set.ofPred_false]
    rw [hsizes, hroom]
    simp

theorem le (h : Between s t new reserved receivers) : s.room ≤ t.room :=
  h.grown.2 (Set.mem_insert _ _)

theorem trans (h : Between s t new reserved receivers)
    (h' : Between t u new' reserved' receivers') :
    Between s u (new ++ new') (reserved ∪ reserved') (receivers ++ receivers') where
  delivered := by
    rw [← List.append_assoc, List.filter_append, h.delivered, List.append_assoc,
      ← List.filter_append, h'.delivered, List.filterMap_append, List.append_assoc]
  grown := by
    rw [sizes_append]
    constructor
    -- the room of `u` is that of `t`, or had to be made after `t`
    · rcases h'.grown.1 with heq | hmem
      · rw [heq]
        exact Set.insert_subset_insert Set.subset_union_left h.grown.1
      · exact Or.inr (Or.inr hmem)
    · rintro n (rfl | hn | hn)
      · exact h.le.trans h'.le
      · exact (h.grown.2 (Or.inr hn)).trans h'.le
      · exact h'.grown.2 (Or.inr hn)

theorem receiveDatagram (s : Socket) : Between s s.receiveDatagram.state [] ∅ [s] where
  delivered := by
    have htaken := s.received_receiveDatagram.taken
    rw [List.append_nil, List.filterMap_cons, List.filterMap_nil]
    cases hresult : s.receiveDatagram.result with
    | ok d =>
        rw [hresult] at htaken
        rw [htaken.2, List.filter_cons_of_pos (by simpa using htaken.1)]
        rfl
    | error e =>
        rw [hresult] at htaken
        obtain ⟨-, hnone | ⟨-, hempty⟩⟩ := htaken
        · rw [hnone]
          rfl
        · rw [hempty]
          rfl
  grown := by
    have hsizes : sizes ∅ [s] = {n | ∃ d, s.kernel.seen = some d ∧ d.length = n} := by
      simp only [sizes, Set.mem_empty_iff_false, List.mem_singleton, exists_eq_left, false_or]
    have hroom : s.receiveDatagram.state.room =
        max s.room ((s.kernel.seen.map List.length).getD 0) := by
      rw [room, s.receiveDatagram_eq.2.1]
      rfl
    rw [hsizes, hroom]
    cases s.kernel.seen with
    | none => simp
    | some d =>
        have hlength : {n | ∃ d', some d = some d' ∧ d'.length = n} = {d.length} := by
          simp only [Option.some.injEq, exists_eq_left', eq_comm, Set.ofPred_eq_eq_singleton]
        rw [hlength]
        exact isGreatest_pair

theorem keep (datagram : Bytes) (s : Socket) : Between s (s.keep datagram).state [] ∅ [] := by
  refine of_waiting ?_ ?_
  · rw [kernel_keep, List.append_nil]
  · unfold Socket.keep
    split <;> rfl

/-- **While a request waits** it receives, and keeps or drops what it received. -/
theorem awaitVerdict (seq : UInt32) (s : Socket) :
    Between s (s.awaitVerdict seq).state [] ∅ (s.rounds seq) := by
  -- along the datagrams that are read: the first four cases end the wait, the others go on
  fun_induction Socket.awaitVerdict seq s with
  | case1 s o e h =>
      rw [rounds_of_error h]
      exact receiveDatagram s
  | case2 s o d h e hfound =>
      rw [rounds_of_ok h, hfound]
      exact receiveDatagram s
  | case3 s o d h hfound =>
      rw [rounds_of_ok h, hfound]
      exact receiveDatagram s
  | case4 s o d h code hfound =>
      rw [rounds_of_ok h, hfound]
      exact receiveDatagram s
  | case5 s o d h got hfound ih =>
      rw [rounds_of_ok h, hfound]
      have hall := (receiveDatagram s).trans ih
      rwa [Set.union_empty] at hall
  | case6 s o d h hfound kept ih =>
      rw [rounds_of_ok h, hfound]
      have hall := ((receiveDatagram s).trans (keep d o.state)).trans ih
      rwa [Set.union_empty, Set.union_empty] at hall

theorem request (message : Bytes) (s : Socket) :
    Between s (s.request message).state (s.arrivals message) ∅ (s.receivers (.request message)) := by
  cases hstamp : MessageHeader.stamp message s.nextSeq with
  | error e =>
      rw [request_of_unstamped hstamp, arrivals, receivers, hstamp]
      exact of_waiting (List.append_nil _).symm rfl
  | ok bytes =>
      let sent : Socket :=
        { s with nextSeq := s.nextSeq + 1, kernel := (sendMessage bytes s.kernel).state }
      rcases sendMessage_cases bytes s.kernel with ⟨e, herr, -, hwaiting⟩ |
        ⟨answers, hok, -, hwaiting⟩
      · rw [request_of_unsent hstamp herr, arrivals, receivers, hstamp]
        simp only [herr, hwaiting, List.drop_length]
        exact of_waiting (t := sent) (hwaiting.trans (List.append_nil _).symm) rfl
      · have hsent : Between s sent answers ∅ [] := of_waiting hwaiting rfl
        have hall := hsent.trans (awaitVerdict s.nextSeq sent)
        rw [request_of_sent hstamp hok, arrivals, receivers, hstamp]
        simp only [hok, hwaiting, List.drop_left]
        rwa [Set.union_empty, List.append_nil] at hall

theorem receive (s : Socket) : Between s s.receive.state [] ∅ (s.receivers .receive) := by
  cases hpending : s.pending with
  | nil =>
      rw [Socket.receive, receivers, hpending, if_pos rfl]
      exact receiveDatagram s
  | cons d rest =>
      rw [Socket.receive, receivers, hpending, if_neg (List.cons_ne_nil d rest)]
      exact of_waiting (List.append_nil _).symm rfl

theorem reserve (size : Nat) (s : Socket) :
    Between s (s.reserveMessageSize size).state [] {size} [] where
  delivered := by rw [List.append_nil]; rfl
  grown := by
    have hsizes : sizes {size} [] = {size} := by
      simp only [sizes, Set.mem_singleton_iff, List.not_mem_nil, false_and, exists_false, or_false,
        Set.ofPred_eq_eq_singleton]
    rw [hsizes]
    exact isGreatest_pair

end Between

/-! ## Options leave the room as it is -/

theorem room_setReceiveBufferSize (size : Nat) (s : Socket) :
    (s.setReceiveBufferSize size).state.room = s.room := by
  refine Outcome.andThen_keeps room ?_ fun _ t => ?_
  · split <;> rfl
  · dsimp only
    split <;> rfl

theorem room_setReadTimeout (timeout : Option Duration) (s : Socket) :
    (s.setReadTimeout timeout).state.room = s.room :=
  Outcome.andThen_keeps room rfl fun _ _ => rfl

theorem room_configure (s : Socket) : s.configure.state.room = s.room := by
  refine Outcome.andThen_keeps room ?_ fun _ t => ?_
  · split
    · rfl
    · exact room_setReceiveBufferSize _ s
  · split
    · rfl
    · exact room_setReadTimeout _ t

/-- A socket opens with the room that the configuration asks for. -/
theorem room_of_open {kernel : Kernel} {config : SocketConfig} {seed : UInt32} {s : Socket}
    (h : (Socket.open kernel config seed).result = .ok s) : s.room = config.maxMessageSize := by
  obtain ⟨-, created, -, h, -⟩ := Outcome.exists_of_andThen h
  obtain ⟨-, bound, -, h, -⟩ := Outcome.exists_of_andThen h
  dsimp only at h
  split at h
  · cases h
  · cases h
    exact room_configure { kernel := bound, address := bound.address, nextSeq := seed, config }

/-! ## Runs -/

/-- **What one step does** to the datagrams and to the room. -/
theorem between_step (h : History) (x : Step) :
    ∃ new, (h.step x).arrived = h.arrived ++ new ∧
      Between h.socket (h.step x).socket new x.reserved (h.socket.receivers x) := by
  have harrived := (List.append_nil h.arrived).symm
  have hwaiting := (List.append_nil h.socket.kernel.waiting).symm
  cases x with
  | request message => exact ⟨_, rfl, Between.request message h.socket⟩
  | receive => exact ⟨[], harrived, Between.receive h.socket⟩
  | reserve size => exact ⟨[], harrived, Between.reserve size h.socket⟩
  | resize size =>
      have hundisturbed := undisturbed_setReceiveBufferSize size h.socket
      exact ⟨[], harrived, Between.of_waiting (hundisturbed.waiting.trans hwaiting)
        (room_setReceiveBufferSize size h.socket)⟩
  | setTimeout timeout =>
      have hundisturbed := undisturbed_setReadTimeout timeout h.socket
      exact ⟨[], harrived, Between.of_waiting (hundisturbed.waiting.trans hwaiting)
        (room_setReadTimeout timeout h.socket)⟩
  | arrive a =>
      refine ⟨a.bytes?.toList, rfl, Between.of_waiting ?_ rfl⟩
      show (h.socket.kernel.queue ++ [a]).filterMap Arrival.bytes? = _
      rw [List.filterMap_append]
      cases a <;> rfl
  | fail e => exact ⟨[], harrived, Between.of_waiting hwaiting rfl⟩

theorem reserved_cons (x : Step) (steps : List Step) :
    {n | Step.reserve n ∈ x :: steps} = x.reserved ∪ {n | Step.reserve n ∈ steps} := by
  ext n
  cases x <;> simp [Step.reserved]

/-- **What a run does**, step after step. -/
theorem between_run (h : History) (steps : List Step) :
    ∃ new, (h.run steps).arrived = h.arrived ++ new ∧
      Between h.socket (h.run steps).socket new {n | .reserve n ∈ steps} (h.receivers steps) := by
  induction steps generalizing h with
  | nil =>
      have hnone : {n | Step.reserve n ∈ ([] : List Step)} = ∅ := by simp
      refine ⟨[], (List.append_nil _).symm, ?_⟩
      rw [hnone]
      exact Between.of_waiting (List.append_nil _).symm rfl
  | cons x steps ih =>
      obtain ⟨new, harrived, hstep⟩ := between_step h x
      obtain ⟨new', harrived', hrest⟩ := ih (h.step x)
      refine ⟨new ++ new', ?_, ?_⟩
      · rw [← List.append_assoc, ← harrived]
        exact harrived'
      · rw [reserved_cons]
        exact hstep.trans hrest

end Socket

open Socket in
/-- **A datagram is never cut.** Whatever the configuration and the run, and however often the calls
that read are interrupted: each receive acts as a single read of the whole of the next datagram, and
if it fails it takes nothing. So what the receives delivered is, in order, what arrived and no longer
waits, apart from empty datagrams. The room for a datagram never shrinks, and it is the greatest of
what the configuration asked for, the sizes that were reserved and the lengths that were seen. -/
theorem datagrams_never_cut {kernel : Kernel} {config : SocketConfig} {seed : UInt32} {s : Socket}
    (hopen : (Socket.open kernel config seed).result = .ok s) (steps : List Socket.Step) :
    let start := History.start s
    let h := start.run steps
    let receivers := start.receivers steps
    (∀ t ∈ receivers, AsOne t t.receiveDatagram) ∧
      h.arrived.filter (· ≠ []) = receivers.filterMap (·.receiveDatagram.result.toOption) ++
        h.socket.kernel.waiting.filter (· ≠ []) ∧
      IsGreatest {n | n = config.maxMessageSize ∨ .reserve n ∈ steps ∨
        ∃ t ∈ receivers, ∃ d, t.kernel.seen = some d ∧ d.length = n}
          h.socket.config.maxMessageSize ∧
      ∀ earlier later, steps = earlier ++ later →
        (start.run earlier).socket.config.maxMessageSize ≤ h.socket.config.maxMessageSize := by
  intro start h receivers
  obtain ⟨new, harrived, hrun⟩ := between_run start steps
  refine ⟨fun t _ => asOne_receiveDatagram t, ?_, ?_, ?_⟩
  · rw [← hrun.delivered, harrived]
    rfl
  · have hroom := hrun.grown
    rw [show start.socket.room = config.maxMessageSize from room_of_open hopen] at hroom
    exact hroom
  · rintro earlier later rfl
    obtain ⟨_, -, hlater⟩ := between_run (start.run earlier) later
    have happend : start.run (earlier ++ later) = (start.run earlier).run later :=
      List.foldl_append
    rw [← happend] at hlater
    exact hlater.le

open Socket in
/-- Without any room to start with, a request still reads a record and its verdict as a whole, past
two interruptions. The receive that fails afterwards takes nothing. -/
theorem datagrams_whole_without_room :
    let record : Bytes := ({ len := 16, kind := 1024, seq := 1 } : MessageHeader).encode
    let kernel : Kernel := { queue := [.failure .interrupted, .datagram record [.interrupted]] }
    let config : SocketConfig := { maxMessageSize := 0 }
    let s : Socket := { kernel, address := 4242, nextSeq := 7, config }
    let steps : List Socket.Step :=
      [.request (List.replicate 16 0), .fail .noBufferSpace, .receive, .receive]
    let start := History.start s
    let h := start.run steps
    (Socket.open kernel config 7).result = .ok s ∧
      h.arrived = [record, Kernel.verdict 0 7] ∧ h.returned = [record] ∧
      (start.receivers steps).filterMap (·.receiveDatagram.result.toOption) = h.arrived ∧
      IsGreatest {n | n = 0 ∨ .reserve n ∈ steps ∨
        ∃ t ∈ start.receivers steps, ∃ d, t.kernel.seen = some d ∧ d.length = n} 36 := by
  intro record kernel config s steps start h
  have hopen : (Socket.open kernel config 7).result = .ok s := rfl
  have harrived : h.arrived = [record, Kernel.verdict 0 7] := by decide +kernel +zetaReduce
  have hwaiting : h.socket.kernel.waiting = [] := by decide +kernel +zetaReduce
  have hroom : h.socket.config.maxMessageSize = 36 := by decide +kernel +zetaReduce
  obtain ⟨-, hdelivered, hgreatest, -⟩ := datagrams_never_cut hopen steps
  refine ⟨hopen, harrived, by decide +kernel +zetaReduce, ?_, hroom ▸ hgreatest⟩
  have hnonempty : h.arrived.filter (· ≠ []) = h.arrived := by
    rw [harrived]
    decide +kernel +zetaReduce
  rw [← hnonempty]
  refine Eq.symm (hdelivered.trans ?_)
  rw [hwaiting]
  exact List.append_nil _

end PacketLog
