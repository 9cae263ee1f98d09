import Mathlib
import PacketLog.Proofs.Socket.Receiving

set_option autoImplicit false

/-! # What becomes of the datagrams

`Traffic` lists the datagrams that a socket has read, each with its fate so far: returned, held
back, dropped for lack of room, or spent on a request that waited. `Traffic.hear` is what happens to
a datagram that is read while a request waits, and `Socket.exists_waited` says that waiting for a
verdict is nothing but hearing the datagrams in front of the kernel's queue. -/

namespace PacketLog

/-- What became of a datagram that was read. -/
inductive Fate where
  /-- A receive returned it. -/
  | returned
  /-- It is held back for a later receive. -/
  | pending
  /-- It was read while the request with number `seq` waited, and found to be this. -/
  | settled (seq : UInt32) (found : Except TransportError Reply)
  /-- It was held back, as the first in `queue`, and had to make room. -/
  | dropped (queue : List Bytes)
  /-- It was empty and taken for the end. -/
  | ended

namespace Fate

def isReturned : Fate → Bool
  | returned => true
  | _ => false

def isPending : Fate → Bool
  | pending => true
  | _ => false

/-- Neither lost nor spent. -/
def isKept (fate : Fate) : Bool := fate.isReturned || fate.isPending

/-- When a fate may befall a datagram: no log traffic is spent on a request, and none is dropped as
long as there is room. -/
def Befits (d : Bytes) : Fate → Prop
  | settled seq found => d ≠ [] ∧ Reply.classify d seq = found ∧ found ≠ .ok .unrelated
  | dropped queue => queue.head? = some d ∧ queue.length = Socket.maxPending
  | ended => d = []
  | _ => True

end Fate

/-- Datagrams with their fates, in the order in which they were read. -/
abbrev Traffic := List (Bytes × Fate)

namespace Traffic

/-- The datagrams with a fate of some kind. -/
def those (kind : Fate → Bool) (t : Traffic) : List Bytes :=
  (t.filter fun x => kind x.2).map Prod.fst

/-- The first datagram that is held back meets its fate. -/
def release (fate : Fate) : Traffic → Traffic
  | [] => []
  | (d, .pending) :: later => (d, fate) :: later
  | x :: later => x :: release fate later

/-- Holds a datagram back; if there is no room, the first one is dropped. -/
def hold (t : Traffic) (d : Bytes) : Traffic :=
  let queue := those Fate.isPending t
  (if Socket.maxPending ≤ queue.length then release (.dropped queue) t else t) ++ [(d, .pending)]

/-- Takes in a datagram that is read while the request with number `seq` waits. -/
def hear (seq : UInt32) (t : Traffic) (d : Bytes) : Traffic :=
  if d = [] then t ++ [(d, .ended)]
  else match Reply.classify d seq with
    | .ok .unrelated => hold t d
    | found => t ++ [(d, .settled seq found)]

/-! ## Lists of fates -/

theorem those_append (kind : Fate → Bool) (t u : Traffic) :
    those kind (t ++ u) = those kind t ++ those kind u := by
  simp only [those, List.filter_append, List.map_append]

theorem those_cons (kind : Fate → Bool) (x : Bytes × Fate) (t : Traffic) :
    those kind (x :: t) = (if kind x.2 then [x.1] else []) ++ those kind t := by
  simp only [those, List.filter_cons]
  split <;> rfl

theorem release_cons_pending (fate : Fate) (d : Bytes) (t : Traffic) :
    release fate ((d, .pending) :: t) = (d, fate) :: t := rfl

theorem release_cons_of_not_pending {fate : Fate} {x : Bytes × Fate} (h : x.2.isPending = false)
    (t : Traffic) : release fate (x :: t) = x :: release fate t := by
  obtain ⟨d, f⟩ := x
  cases f <;> first | rfl | cases h

/-- **Induction along traffic up to the first datagram that is held back.** -/
theorem release_induction {motive : Traffic → Prop} (nil : motive [])
    (found : ∀ d t, motive ((d, .pending) :: t))
    (skip : ∀ x t, x.2.isPending = false → motive t → motive (x :: t)) (t : Traffic) :
    motive t := by
  induction t with
  | nil => exact nil
  | cons x t ih =>
      obtain ⟨d, f⟩ := x
      cases f with
      | pending => exact found d t
      | _ => exact skip _ t rfl ih

theorem map_fst_release (fate : Fate) (t : Traffic) :
    (release fate t).map Prod.fst = t.map Prod.fst := by
  induction t using release_induction with
  | nil => rfl
  | found d t => rfl
  | skip x t hx ih => rw [release_cons_of_not_pending hx, List.map_cons, List.map_cons, ih]

theorem pending_release {fate : Fate} (h : fate.isPending = false) (t : Traffic) :
    those Fate.isPending (release fate t) = (those Fate.isPending t).tail := by
  induction t using release_induction with
  | nil => rfl
  | found d t =>
      rw [release_cons_pending, those_cons, those_cons, h]
      rfl
  | skip x t hx ih =>
      rw [release_cons_of_not_pending hx, those_cons, those_cons, hx, ih]
      rfl

theorem returned_release_of_not_returned {fate : Fate} (h : fate.isReturned = false) (t : Traffic) :
    those Fate.isReturned (release fate t) = those Fate.isReturned t := by
  induction t using release_induction with
  | nil => rfl
  | found d t =>
      rw [release_cons_pending, those_cons, those_cons, h]
      rfl
  | skip x t hx ih => rw [release_cons_of_not_pending hx, those_cons, those_cons, ih]

/-! ## Order -/

/-- Nothing is returned before what was read earlier and is held back. -/
def InOrder (t : Traffic) : Prop :=
  t.Pairwise fun x y => x.2.isPending = true → y.2.isReturned = false

theorem InOrder.snoc {t : Traffic} (h : InOrder t) {d : Bytes} {fate : Fate}
    (hfate : fate.isReturned = true → those Fate.isPending t = []) : InOrder (t ++ [(d, fate)]) := by
  refine List.pairwise_append.mpr ⟨h, List.pairwise_singleton _ _, fun x hx y hy hpending => ?_⟩
  obtain rfl := List.mem_singleton.mp hy
  by_contra hreturned
  have hmem : x.1 ∈ those Fate.isPending t :=
    List.mem_map_of_mem (List.mem_filter.mpr ⟨hx, hpending⟩)
  rw [hfate (by simpa using hreturned)] at hmem
  cases hmem

theorem InOrder.release {t : Traffic} (h : InOrder t) {fate : Fate}
    (hfate : fate.isPending = false) : InOrder (release fate t) := by
  induction t using release_induction with
  | nil => exact h
  | found d t =>
      have htail := (List.pairwise_cons.mp h).2
      refine List.pairwise_cons.mpr ⟨fun y hy hpending => ?_, htail⟩
      rw [hfate] at hpending
      cases hpending
  | skip x t hx ih =>
      rw [release_cons_of_not_pending hx]
      refine List.pairwise_cons.mpr ⟨fun y hy hpending => ?_, ih (List.pairwise_cons.mp h).2⟩
      rw [hx] at hpending
      cases hpending

/-- **The first datagram that is held back comes next in order.** -/
theorem InOrder.returned_release {t : Traffic} (h : InOrder t) :
    those Fate.isReturned (Traffic.release .returned t) =
      those Fate.isReturned t ++ (those Fate.isPending t).take 1 := by
  induction t using release_induction with
  | nil => rfl
  | found d t =>
      -- nothing behind `d` has been returned
      have hnone : those Fate.isReturned t = [] := by
        rw [those, List.map_eq_nil_iff, List.filter_eq_nil_iff]
        intro y hy
        rw [(List.pairwise_cons.mp h).1 y hy rfl]
        simp
      rw [release_cons_pending, those_cons, those_cons, those_cons, hnone]
      rfl
  | skip x t hx ih =>
      rw [release_cons_of_not_pending hx, those_cons, those_cons, those_cons, hx,
        ih (List.pairwise_cons.mp h).2, List.append_assoc]
      rfl

/-- What was returned and what is held back make up, one behind the other, all that is kept. -/
theorem InOrder.kept_eq {t : Traffic} (h : InOrder t) :
    those Fate.isKept t = those Fate.isReturned t ++ those Fate.isPending t := by
  induction t with
  | nil => rfl
  | cons x t ih =>
      obtain ⟨hx, ht⟩ := List.pairwise_cons.mp h
      obtain ⟨d, f⟩ := x
      rw [those_cons, those_cons, those_cons, ih ht]
      cases f with
      | pending =>
          have hnone : those Fate.isReturned t = [] := by
            rw [those, List.map_eq_nil_iff, List.filter_eq_nil_iff]
            intro y hy
            rw [hx y hy rfl]
            simp
          rw [hnone]
          rfl
      | _ => rfl

/-! ## Taking in a datagram -/

theorem hear_nil (seq : UInt32) (t : Traffic) : hear seq t [] = t ++ [([], .ended)] := rfl

theorem hear_of_unrelated {seq : UInt32} {d : Bytes} (hne : d ≠ [])
    (h : Reply.classify d seq = .ok .unrelated) (t : Traffic) : hear seq t d = hold t d := by
  rw [hear, if_neg hne, h]

theorem hear_of_settled {seq : UInt32} {d : Bytes} {found : Except TransportError Reply}
    (hne : d ≠ []) (h : Reply.classify d seq = found) (hfound : found ≠ .ok .unrelated)
    (t : Traffic) : hear seq t d = t ++ [(d, .settled seq found)] := by
  rw [hear, if_neg hne, h]
  split
  · exact absurd rfl hfound
  · rfl

/-- **What can become of a datagram that is heard**: it is held back, or it is the end or spent on
the request. -/
theorem hear_cases (seq : UInt32) (t : Traffic) (d : Bytes) :
    hear seq t d = hold t d ∨ ∃ fate, fate.isKept = false ∧ fate.Befits d ∧
      (∀ number found, fate = .settled number found → number = seq) ∧
      hear seq t d = t ++ [(d, fate)] := by
  by_cases hne : d = []
  · exact Or.inr ⟨.ended, rfl, hne, by simp, by rw [hne, hear_nil]⟩
  · by_cases h : Reply.classify d seq = .ok .unrelated
    · exact Or.inl (hear_of_unrelated hne h t)
    · exact Or.inr ⟨.settled seq (Reply.classify d seq), rfl, ⟨hne, rfl, h⟩, by simp +contextual,
        hear_of_settled hne rfl h t⟩

/-- What traffic is like at any time: in order, each fate for a reason, and no more held back than
there is room for. -/
structure Sound (t : Traffic) : Prop where
  inOrder : InOrder t
  befits : ∀ x ∈ t, x.2.Befits x.1
  bounded : (those Fate.isPending t).length ≤ Socket.maxPending

namespace Sound

theorem nil : Sound [] :=
  ⟨List.Pairwise.nil, List.forall_mem_nil _, Nat.zero_le _⟩

theorem release {t : Traffic} (h : Sound t) {fate : Fate} (hfate : fate.isPending = false)
    (hbefits : ∀ d, (those Fate.isPending t).head? = some d → fate.Befits d) :
    Sound (release fate t) := by
  refine ⟨h.inOrder.release hfate, ?_, ?_⟩
  · have hall := h.befits
    clear h
    induction t using release_induction with
    | nil => exact hall
    | found d t =>
        exact List.forall_mem_cons.mpr ⟨hbefits d rfl, (List.forall_mem_cons.mp hall).2⟩
    | skip x t hx ih =>
        obtain ⟨hhead, htail⟩ := List.forall_mem_cons.mp hall
        rw [those_cons, hx] at hbefits
        rw [release_cons_of_not_pending hx]
        exact List.forall_mem_cons.mpr ⟨hhead, ih hbefits htail⟩
  · have := h.bounded
    rw [pending_release hfate, List.length_tail]
    omega

theorem snoc {t : Traffic} (h : Sound t) {d : Bytes} {fate : Fate} (hbefits : fate.Befits d)
    (hreturned : fate.isReturned = true → those Fate.isPending t = [])
    (hroom : fate.isPending = true → (those Fate.isPending t).length < Socket.maxPending) :
    Sound (t ++ [(d, fate)]) := by
  refine ⟨h.inOrder.snoc hreturned, ?_, ?_⟩
  · intro x hx
    rcases List.mem_append.mp hx with hx | hx
    · exact h.befits x hx
    · rw [List.mem_singleton.mp hx]
      exact hbefits
  · rw [those_append, List.length_append, those_cons]
    have := h.bounded
    by_cases hpending : fate.isPending = true
    · have := hroom hpending
      rw [if_pos hpending]
      exact this
    · rw [if_neg hpending]
      exact this

theorem hold {t : Traffic} (h : Sound t) (d : Bytes) : Sound (hold t d) := by
  rw [Traffic.hold]
  by_cases hfull : Socket.maxPending ≤ (those Fate.isPending t).length
  · rw [if_pos hfull]
    have hlength : (those Fate.isPending t).length = Socket.maxPending :=
      Nat.le_antisymm h.bounded hfull
    -- the first one gives way before the new one comes in
    have hroom : Sound (Traffic.release (.dropped (those Fate.isPending t)) t) :=
      h.release rfl fun d hd => ⟨hd, hlength⟩
    refine hroom.snoc trivial (fun hreturned => by cases hreturned) fun _ => ?_
    rw [pending_release rfl, List.length_tail, hlength]
    decide
  · rw [if_neg hfull]
    exact h.snoc trivial (fun hreturned => by cases hreturned) fun _ => Nat.not_le.mp hfull

theorem hear {t : Traffic} (h : Sound t) (seq : UInt32) (d : Bytes) : Sound (hear seq t d) := by
  rcases hear_cases seq t d with heq | ⟨fate, hkept, hbefits, -, heq⟩
  · rw [heq]
    exact h.hold d
  · rw [heq]
    refine h.snoc hbefits (fun hreturned => ?_) fun hpending => ?_
    · rw [(Bool.or_eq_false_iff.mp hkept).1] at hreturned
      cases hreturned
    · rw [(Bool.or_eq_false_iff.mp hkept).2] at hpending
      cases hpending

theorem foldl_hear {t : Traffic} (h : Sound t) (seq : UInt32) (heard : List Bytes) :
    Sound (heard.foldl (Traffic.hear seq) t) := by
  induction heard generalizing t with
  | nil => exact h
  | cons d heard ih => exact ih (h.hear seq d)

end Sound

theorem map_fst_hold (t : Traffic) (d : Bytes) :
    (hold t d).map Prod.fst = t.map Prod.fst ++ [d] := by
  rw [hold, List.map_append]
  split
  · rw [map_fst_release]
    rfl
  · rfl

theorem map_fst_foldl_hear (seq : UInt32) (heard : List Bytes) (t : Traffic) :
    (heard.foldl (hear seq) t).map Prod.fst = t.map Prod.fst ++ heard := by
  induction heard generalizing t with
  | nil => rw [List.foldl_nil, List.append_nil]
  | cons d heard ih =>
      have hd : (hear seq t d).map Prod.fst = t.map Prod.fst ++ [d] := by
        rcases hear_cases seq t d with heq | ⟨fate, -, -, -, heq⟩
        · rw [heq, map_fst_hold]
        · rw [heq, List.map_append]
          rfl
      rw [List.foldl_cons, ih, hd, List.append_assoc]
      rfl

theorem returned_hold (t : Traffic) (d : Bytes) :
    those Fate.isReturned (hold t d) = those Fate.isReturned t := by
  rw [hold, those_append]
  split
  · rw [returned_release_of_not_returned rfl]
    exact List.append_nil _
  · exact List.append_nil _

theorem returned_foldl_hear (seq : UInt32) (heard : List Bytes) (t : Traffic) :
    those Fate.isReturned (heard.foldl (hear seq) t) = those Fate.isReturned t := by
  induction heard generalizing t with
  | nil => rfl
  | cons d heard ih =>
      rw [List.foldl_cons, ih]
      rcases hear_cases seq t d with heq | ⟨fate, hkept, -, -, heq⟩
      · rw [heq, returned_hold]
      · rw [heq, those_append, those_cons, (Bool.or_eq_false_iff.mp hkept).1]
        exact List.append_nil _

theorem pending_hear_of_settled {seq : UInt32} {d : Bytes} {found : Except TransportError Reply}
    (hne : d ≠ []) (h : Reply.classify d seq = found) (hfound : found ≠ .ok .unrelated)
    (t : Traffic) : those Fate.isPending (hear seq t d) = those Fate.isPending t := by
  rw [hear_of_settled hne h hfound, those_append]
  exact List.append_nil _

/-! ## Spent datagrams -/

theorem mem_of_mem_release {fate : Fate} {x : Bytes × Fate} (hne : x.2 ≠ fate) {t : Traffic}
    (h : x ∈ release fate t) : x ∈ t := by
  induction t using release_induction with
  | nil => exact h
  | found d t =>
      rcases List.mem_cons.mp h with rfl | h
      · exact absurd rfl hne
      · exact List.mem_cons_of_mem _ h
  | skip y t hy ih =>
      rw [release_cons_of_not_pending hy] at h
      rcases List.mem_cons.mp h with rfl | h
      · exact List.mem_cons_self
      · exact List.mem_cons_of_mem _ (ih h)

variable {d d' : Bytes} {seq number : UInt32} {found : Except TransportError Reply} {t : Traffic}

theorem settled_mem_of_mem_hold (h : (d, .settled number found) ∈ hold t d') :
    (d, .settled number found) ∈ t := by
  rw [hold] at h
  rcases List.mem_append.mp h with h | h
  · split at h
    · exact mem_of_mem_release (by simp) h
    · exact h
  · simp at h

theorem settled_mem_of_mem_hear (h : (d, .settled number found) ∈ hear seq t d') :
    (d, .settled number found) ∈ t ∨ d = d' ∧ number = seq := by
  rcases hear_cases seq t d' with heq | ⟨fate, -, -, hnumber, heq⟩
  · rw [heq] at h
    exact Or.inl (settled_mem_of_mem_hold h)
  · rw [heq] at h
    rcases List.mem_append.mp h with h | h
    · exact Or.inl h
    · obtain ⟨hd, hfate⟩ := Prod.mk.inj (List.mem_singleton.mp h)
      exact Or.inr ⟨hd, hnumber number found hfate.symm⟩

/-- A datagram is spent on a request only if it is heard while this request waits. -/
theorem settled_mem_of_mem_foldl_hear {heard : List Bytes}
    (h : (d, .settled number found) ∈ heard.foldl (hear seq) t) :
    (d, .settled number found) ∈ t ∨ d ∈ heard ∧ number = seq := by
  induction heard generalizing t with
  | nil => exact Or.inl h
  | cons d' heard ih =>
      rcases ih h with h | ⟨hd, hnumber⟩
      · rcases settled_mem_of_mem_hear h with h | ⟨rfl, hnumber⟩
        · exact Or.inl h
        · exact Or.inr ⟨List.mem_cons_self, hnumber⟩
      · exact Or.inr ⟨List.mem_cons_of_mem _ hd, hnumber⟩

end Traffic

namespace Socket

/-- A socket holds back what its traffic holds back. -/
theorem pending_keep {s : Socket} {t : Traffic} (h : Traffic.those Fate.isPending t = s.pending)
    (d : Bytes) :
    (s.keep d).state.pending = Traffic.those Fate.isPending (Traffic.hold t d) := by
  rw [keep, Traffic.hold, h, Traffic.those_append]
  split
  · rw [Traffic.pending_release rfl, h]
    rfl
  · rw [h]
    rfl

end Socket

end PacketLog
