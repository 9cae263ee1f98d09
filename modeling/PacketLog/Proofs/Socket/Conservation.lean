import Mathlib
import PacketLog.Proofs.Socket.History

set_option autoImplicit false

/-! # Conservation of log traffic

The traffic that a history keeps is what really happens to the datagrams (`History.Tracks`): what it
says was returned has been returned, and what it says is held back is held back. From this
`traffic_conserved` is read off: over any run nothing is lost, duplicated or reordered, apart from
the datagrams that were spent on a request or had to make room. -/

namespace PacketLog

namespace Socket

namespace History

/-- The traffic of a history is what happened to the datagrams. -/
structure Tracks (h : History) : Prop where
  arrived : h.arrived = h.traffic.map Prod.fst ++ h.socket.kernel.waiting
  pending : Traffic.those Fate.isPending h.traffic = h.socket.pending
  returned : Traffic.those Fate.isReturned h.traffic = h.returned
  sound : Traffic.Sound h.traffic
  spent : ∀ d seq found, (d, .settled seq found) ∈ h.traffic →
    ∃ r ∈ h.requests, r.seq = seq ∧ d ∈ r.heard

namespace Tracks

variable {h : History}

theorem start {s : Socket} (hfresh : s.pending = []) : Tracks (History.start s) where
  arrived := rfl
  pending := hfresh.symm
  returned := rfl
  sound := Traffic.Sound.nil
  spent _ _ _ hmem := absurd hmem List.not_mem_nil

theorem request (ht : Tracks h) (message : Bytes) : Tracks (h.step (.request message)) := by
  have hrequested := h.socket.requested_request message
  constructor
  case arrived =>
    -- what waited and what came to wait was heard or still waits
    show h.arrived ++ h.socket.arrivals message = _
    rw [ht.arrived, List.append_assoc, hrequested.waiting, ← List.append_assoc]
    exact congrArg (· ++ _) (Traffic.map_fst_foldl_hear _ _ _).symm
  case pending => exact hrequested.pending h.traffic ht.pending
  case returned => exact (Traffic.returned_foldl_hear _ _ _).trans ht.returned
  case sound => exact ht.sound.foldl_hear _ _
  case spent =>
    intro d seq found hmem
    rcases Traffic.settled_mem_of_mem_foldl_hear hmem with hmem | ⟨hheard, hseq⟩
    · obtain ⟨r, hr, hspent⟩ := ht.spent d seq found hmem
      exact ⟨r, List.mem_append_left _ hr, hspent⟩
    · exact ⟨_, List.mem_append_right _ (List.mem_singleton_self _), hseq.symm, hheard⟩

/-- A step without traffic changes nothing. -/
theorem undisturbed (ht : Tracks h) {s : Socket} (hs : Undisturbed h.socket s) :
    Tracks { h with socket := s } where
  arrived := by rw [ht.arrived, hs.waiting]
  pending := ht.pending.trans hs.pending.symm
  returned := ht.returned
  sound := ht.sound
  spent := ht.spent

/-- A receive returns the first datagram that is held back. -/
theorem receive_of_held (ht : Tracks h) {d : Bytes} {rest : List Bytes}
    (hp : h.socket.pending = d :: rest) : Tracks (h.step .receive) := by
  have hpending := ht.pending.trans hp
  have htraffic (read : List Bytes) :
      h.traffic.receive read = Traffic.release .returned h.traffic := by
    rw [Traffic.receive, hpending, if_neg (List.cons_ne_nil d rest)]
  have hreceive : h.socket.receive =
      { result := .ok d, state := { h.socket with pending := rest } } := by
    rw [Socket.receive, hp]
  simp only [History.step, htraffic, hreceive]
  constructor
  case arrived => rw [Traffic.map_fst_release, ht.arrived]
  case pending => rw [Traffic.pending_release rfl, hpending, List.tail_cons]
  case returned =>
    rw [ht.sound.inOrder.returned_release, ht.returned, hpending]
    rfl
  case sound => exact ht.sound.release rfl fun _ _ => trivial
  case spent =>
    exact fun d seq found hmem =>
      ht.spent d seq found (Traffic.mem_of_mem_release (by simp) hmem)

/-- A datagram leaves the kernel's queue and meets its fate at once. -/
theorem read (ht : Tracks h) {s : Socket} (hs : s.pending = h.socket.pending) {d : Bytes}
    (hwaiting : h.socket.kernel.waiting = d :: s.kernel.waiting) (fate : Fate)
    (hbefits : fate.Befits d) (hheld : fate.isPending = false)
    (hreturned : fate.isReturned = true → h.socket.pending = [])
    (hspent : ∀ seq found, fate ≠ .settled seq found) :
    Tracks { h with socket := s
                    returned := h.returned ++ if fate.isReturned then [d] else []
                    traffic := h.traffic ++ [(d, fate)] } where
  arrived := by
    rw [ht.arrived, hwaiting, List.map_append, List.append_assoc]
    rfl
  pending := by
    rw [Traffic.those_append, Traffic.those_cons, hheld, ht.pending, hs]
    exact List.append_nil _
  returned := by
    rw [Traffic.those_append, Traffic.those_cons, ht.returned]
    exact congrArg (h.returned ++ ·) (List.append_nil _)
  sound := by
    refine ht.sound.snoc hbefits (fun h => ht.pending.trans (hreturned h)) fun h => ?_
    rw [hheld] at h
    cases h
  spent := by
    intro d' seq found hmem
    rcases List.mem_append.mp hmem with hmem | hmem
    · exact ht.spent d' seq found hmem
    · obtain ⟨-, hfate⟩ := Prod.mk.inj (List.mem_singleton.mp hmem)
      exact absurd hfate.symm (hspent seq found)

/-- With nothing held back, a receive reads from the kernel. -/
theorem receive_of_idle (ht : Tracks h) (hp : h.socket.pending = []) :
    Tracks (h.step .receive) := by
  have hpending := ht.pending.trans hp
  have htraffic (read : List Bytes) : h.traffic.receive read =
      h.traffic ++ read.map fun d => (d, if d = [] then .ended else .returned) := by
    rw [Traffic.receive, if_pos hpending]
  have hreceive : h.socket.receive = h.socket.receiveDatagram := by
    rw [Socket.receive, hp]
  simp only [History.step, htraffic, hreceive]
  obtain ⟨hstill, hseq, -, htaken⟩ := h.socket.received_receiveDatagram
  -- what was read is one datagram, or nothing, or an empty datagram
  have hread (front : List Bytes)
      (hfront : h.socket.kernel.waiting = front ++ h.socket.receiveDatagram.state.kernel.waiting) :
      taken h.socket.kernel.waiting h.socket.receiveDatagram.state.kernel.waiting = front :=
    taken_eq hfront
  cases hresult : h.socket.receiveDatagram.result with
  | ok d =>
      rw [hresult] at htaken
      obtain ⟨hne, hwaiting⟩ := htaken
      have hsnoc := ht.read hstill hwaiting .returned trivial rfl (fun _ => hp) (by simp)
      rw [hread [d] hwaiting, List.map_singleton, if_neg hne]
      exact hsnoc
  | error e =>
      rw [hresult] at htaken
      obtain ⟨-, hnone | ⟨-, hempty⟩⟩ := htaken
      · have hreturned : (Except.error e : Except TransportError Bytes).toOption.toList = [] := rfl
        rw [hread [] hnone, hreturned, List.map_nil, List.append_nil, List.append_nil]
        exact ht.undisturbed ⟨hstill, hseq, hnone.symm⟩
      · have hsnoc := ht.read hstill hempty .ended rfl rfl (fun h => by cases h) (by simp)
        rw [hread [[]] hempty]
        exact hsnoc

theorem receive (ht : Tracks h) : Tracks (h.step .receive) := by
  cases hp : h.socket.pending with
  | nil => exact ht.receive_of_idle hp
  | cons d rest => exact ht.receive_of_held hp

theorem arrive (ht : Tracks h) (a : Arrival) : Tracks (h.step (.arrive a)) where
  arrived := by
    have hwaiting : (h.step (.arrive a)).socket.kernel.waiting =
        h.socket.kernel.waiting ++ a.bytes?.toList := by
      show (h.socket.kernel.queue ++ [a]).filterMap Arrival.bytes? = _
      rw [List.filterMap_append]
      cases a <;> rfl
    show h.arrived ++ a.bytes?.toList = h.traffic.map Prod.fst ++ _
    rw [hwaiting, ht.arrived, List.append_assoc]
  pending := ht.pending
  returned := ht.returned
  sound := ht.sound
  spent := ht.spent

theorem step (ht : Tracks h) (x : Step) : Tracks (h.step x) := by
  cases x with
  | request message => exact ht.request message
  | receive => exact ht.receive
  | reserve size => exact ht.undisturbed ⟨rfl, rfl, rfl⟩
  | resize size => exact ht.undisturbed (undisturbed_setReceiveBufferSize size _)
  | setTimeout timeout => exact ht.undisturbed (undisturbed_setReadTimeout timeout _)
  | arrive a => exact ht.arrive a
  | fail e => exact ht.undisturbed ⟨rfl, rfl, rfl⟩

end Tracks

/-- A history tracks what happens, from the opening of the socket on. -/
theorem tracks_run {kernel : Kernel} {config : SocketConfig} {seed : UInt32} {s : Socket}
    (hopen : (Socket.open kernel config seed).result = .ok s) (steps : List Socket.Step) :
    Tracks ((History.start s).run steps) :=
  run_induction (Tracks.start (fresh_of_open hopen).1) (fun _ x ht => ht.step x) steps

end History

end Socket

open Socket in
/-- **Requests neither lose nor duplicate nor reorder log traffic.** After any run of a socket, the
datagrams that receives returned, then those that are held back, then those that still wait at the
kernel make up a subsequence of all that ever arrived. Each other datagram was spent on a request
that waited, or stood first in a full queue and was dropped for another one, or was empty. -/
theorem traffic_conserved {kernel : Kernel} {config : SocketConfig} {seed : UInt32} {s : Socket}
    (hopen : (Socket.open kernel config seed).result = .ok s) (steps : List Socket.Step) :
    let h := (History.start s).run steps
    let kept := h.returned ++ h.socket.pending ++ h.socket.kernel.waiting
    kept.Sublist h.arrived ∧
      h.arrived = h.traffic.map Prod.fst ++ h.socket.kernel.waiting ∧
      kept = Traffic.those Fate.isKept h.traffic ++ h.socket.kernel.waiting ∧
      (∀ d fate, (d, fate) ∈ h.traffic → fate.isKept = false →
        (∃ seq found, fate = .settled seq found ∧ d ≠ [] ∧ Reply.classify d seq = found ∧
            found ≠ .ok .unrelated ∧ ∃ r ∈ h.requests, r.seq = seq ∧ d ∈ r.heard) ∨
          (∃ queue, fate = .dropped queue ∧ queue.head? = some d ∧ queue.length = 256) ∨
            d = []) ∧
      h.socket.pending.length ≤ 256 := by
  intro h kept
  have ht : h.Tracks := History.tracks_run hopen steps
  have hkept : kept = Traffic.those Fate.isKept h.traffic ++ h.socket.kernel.waiting := by
    rw [ht.sound.inOrder.kept_eq, ht.returned, ht.pending]
  refine ⟨?_, ht.arrived, hkept, ?_, ?_⟩
  · rw [hkept, ht.arrived]
    exact (List.filter_sublist.map Prod.fst).append (List.Sublist.refl _)
  · intro d fate hmem hlost
    have hbefits := ht.sound.befits (d, fate) hmem
    cases fate with
    | returned => cases hlost
    | pending => cases hlost
    | settled seq found =>
        obtain ⟨hne, hfound, hrelated⟩ := hbefits
        exact Or.inl ⟨seq, found, rfl, hne, hfound, hrelated, ht.spent d seq found hmem⟩
    | dropped queue => exact Or.inr (Or.inl ⟨queue, rfl, hbefits⟩)
    | ended => exact Or.inr (Or.inr hbefits)
  · rw [← ht.pending]
    exact ht.sound.bounded

open Socket in
/-- A record that arrives before the acknowledgement of a request is returned after the record that
waited already, and before the one that arrives later. -/
theorem records_conserved_around_request :
    let record (n : UInt32) : Bytes := ({ len := 16, kind := 1024, seq := n } : MessageHeader).encode
    let kernel : Kernel := { queue := [.datagram (record 1)]
                             answers := [[.arrival (.datagram (record 2)), .verdict 0 0]] }
    let s : Socket := { kernel, address := 4242, nextSeq := 7 }
    let h := (History.start s).run
      [.request (List.replicate 16 0), .receive, .arrive (.datagram (record 3))]
    (Socket.open kernel {} 7).result = .ok s ∧
      h.arrived = [record 1, record 2, Kernel.verdict 0 7, record 3] ∧
      h.returned = [record 1] ∧ h.socket.pending = [record 2] ∧
      h.socket.kernel.waiting = [record 3] ∧
      (h.returned ++ h.socket.pending ++ h.socket.kernel.waiting).Sublist h.arrived := by
  intro record kernel s h
  have hopen : (Socket.open kernel {} 7).result = .ok s := rfl
  refine ⟨hopen, ?_, ?_, ?_, ?_, (traffic_conserved hopen _).1⟩
  · decide +kernel +zetaReduce
  · decide +kernel +zetaReduce
  · decide +kernel +zetaReduce
  · decide +kernel +zetaReduce

end PacketLog
