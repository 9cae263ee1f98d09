import Mathlib
import PacketLog.Proofs.Session.Handles
import PacketLog.Proofs.Session.History
import PacketLog.Transport.Scripted

set_option autoImplicit false

/-! # The sessions of a process

A `Process` starts sessions one after the other, each with the next number, and makes calls on them
in any order; a session that was closed gives its transport back, and another one can be started
over it (`Process.step`). The `i`-th session has the number `i + 1` (`Process.Numbered`), so while
the numbers last, no two sessions have the same one, and a handle that one session hands out is
stale in every other (`handles_stay_with_their_session`). -/

namespace PacketLog

/-- What became of a session that a process started. -/
inductive Slot (τ ω : Type) where
  | «open» (session : Session τ ω)
  /-- The session is closed, and this is the transport that it gave back. -/
  | closed (number : UInt64) (transport : τ)

namespace Slot

variable {τ ω : Type}

/-- The number of the session. -/
def number : Slot τ ω → UInt64
  | «open» s => s.number
  | closed n _ => n

/-- The slot after a change of its session, while that is open. -/
def change (f : Session τ ω → Slot τ ω) : Slot τ ω → Slot τ ω
  | «open» s => f s
  | closed n t => closed n t

end Slot

/-- The sessions that were started, in order, and the number of the next one. -/
structure Process (τ ω : Type) where
  numbers : SessionNumbers := {}
  slots : List (Slot τ ω) := []

/-- What can happen in a process. -/
inductive Move (τ ω : Type) where
  /-- A session is started over a transport. -/
  | start (transport : τ) (world : ω)
  /-- A session is started over the transport that the `i`-th session gave back. -/
  | restart (i : Nat) (world : ω)
  /-- The `i`-th session is closed. -/
  | close (i : Nat)
  /-- A call is made on the `i`-th session. -/
  | call (i : Nat) (action : Action ω)
  /-- A bare command is sent over the `i`-th session. -/
  | send (i : Nat) (command : GroupCommand)
  /-- Something is done to the transport of the `i`-th session behind the session's back. -/
  | touch (i : Nat) (transport : τ)

namespace Process

variable {τ ω : Type}

/-- Starts one more session. -/
def add (p : Process τ ω) (t : τ) (w : ω) : Process τ ω :=
  let (s, numbers) := Session.start p.numbers t w
  { numbers, slots := p.slots ++ [.open s] }

/-- Changes the `i`-th session, if it is open. -/
def change (p : Process τ ω) (i : Nat) (f : Session τ ω → Slot τ ω) : Process τ ω :=
  { p with slots := p.slots.modify i (Slot.change f) }

variable [Transport τ]

/-- The process after a move. -/
def step (p : Process τ ω) : Move τ ω → Process τ ω
  | .start t w => p.add t w
  | .restart i w =>
    match p.slots[i]? with
    | some (.closed _ t) => p.add t w
    | _ => p
  | .close i => p.change i fun s => .closed s.number s.close.state
  | .call i a => p.change i fun s => .open (s.perform a).state
  | .send i c => p.change i fun s => .open (s.command c).state
  | .touch i t => p.change i fun s => .open { s with transport := t }

/-- The process after some moves. -/
def run (p : Process τ ω) (moves : List (Move τ ω)) : Process τ ω := moves.foldl step p

theorem run_append (p : Process τ ω) (before after : List (Move τ ω)) :
    p.run (before ++ after) = (p.run before).run after :=
  List.foldl_append

/-- **What every move preserves holds of every process that can be reached.** -/
theorem run_induction {motive : Process τ ω → Prop} {p : Process τ ω} (start : motive p)
    (step : ∀ (q : Process τ ω) (m : Move τ ω), motive q → motive (q.step m))
    (moves : List (Move τ ω)) : motive (p.run moves) := by
  induction moves using List.reverseRecOn with
  | nil => exact start
  | append_singleton before m ih =>
      rw [run_append]
      exact step _ m ih

/-- The `i`-th session hands a handle out: as the answer to a bind, as what a group is found
under, or to a handler. -/
def Issues (p : Process τ ω) (i : Nat) (h : GroupHandle) : Prop :=
  ∃ s, p.slots[i]? = some (.open s) ∧
    ((∃ a, (s.perform a).result = .ok (.bound h)) ∨ (∃ g, s.find? g = some h) ∨
      ∃ a, ∃ c ∈ s.callsOf a, c.handle = h)

/-! ## Numbers -/

/-- The sessions have the numbers from one on, and the registries are their own. -/
structure Numbered (p : Process τ ω) : Prop where
  next : p.numbers.next = .ofNat (p.slots.length + 1)
  number : ∀ (i : Nat) (slot : Slot τ ω), p.slots[i]? = some slot → slot.number = .ofNat (i + 1)
  owned : ∀ (i : Nat) (s : Session τ ω), p.slots[i]? = some (.open s) → s.Owned

namespace Numbered

variable {p : Process τ ω}

omit [Transport τ] in
theorem empty : Numbered ({} : Process τ ω) := by
  refine ⟨rfl, fun i slot h => ?_, fun i s h => ?_⟩
  · cases h
  · cases h

omit [Transport τ] in
/-- One more session gets the next number. -/
theorem add (hp : Numbered p) (t : τ) (w : ω) : Numbered (p.add t w) := by
  have hslots : (p.add t w).slots = p.slots ++ [.open (Session.start p.numbers t w).1] := rfl
  -- a slot of the longer list is an old one or the new one
  have hcases : ∀ (i : Nat) (slot : Slot τ ω), (p.add t w).slots[i]? = some slot →
      p.slots[i]? = some slot ∨
        (i = p.slots.length ∧ slot = .open (Session.start p.numbers t w).1) := by
    intro i slot h
    rw [hslots] at h
    by_cases hi : i < p.slots.length
    · rw [List.getElem?_append_left hi] at h
      exact Or.inl h
    · rw [List.getElem?_append_right (by omega), List.getElem?_singleton] at h
      split_ifs at h with hzero
      cases h
      exact Or.inr ⟨by omega, rfl⟩
  constructor
  case next =>
    have hnext : (p.add t w).numbers.next = p.numbers.next + 1 := rfl
    rw [hnext, hp.next, hslots, List.length_append, List.length_singleton,
      UInt64.ofNat_add (p.slots.length + 1) 1]
    rfl
  case number =>
    intro i slot h
    rcases hcases i slot h with hold | ⟨rfl, rfl⟩
    · exact hp.number i slot hold
    · exact hp.next
  case owned =>
    intro i s h
    rcases hcases i _ h with hold | ⟨-, hnew⟩
    · exact hp.owned i s hold
    · cases hnew
      exact .start p.numbers t w

omit [Transport τ] in
/-- A session that keeps its number and its own registry may change. -/
theorem change (hp : Numbered p) {f : Session τ ω → Slot τ ω} (i : Nat)
    (hnumber : ∀ s, (f s).number = s.number)
    (howned : ∀ s t, Session.Owned s → f s = .open t → Session.Owned t) :
    Numbered (p.change i f) := by
  have hslots : ∀ j, (p.change i f).slots[j]? =
      (p.slots[j]?).map fun slot => if i = j then slot.change f else slot := by
    intro j
    rw [Process.change, List.getElem?_modify]
    rfl
  constructor
  case next =>
    have hlength : (p.change i f).slots.length = p.slots.length := List.length_modify _ _ _
    rw [hlength]
    exact hp.next
  case number =>
    intro j slot h
    rw [hslots] at h
    obtain ⟨old, hold, rfl⟩ := Option.map_eq_some_iff.mp h
    have hkept : (old.change f).number = old.number := by
      cases old with
      | «open» s => exact hnumber s
      | closed n t => rfl
    rw [← hp.number j old hold]
    split_ifs
    · exact hkept
    · rfl
  case owned =>
    intro j t h
    rw [hslots] at h
    obtain ⟨old, hold, hopen⟩ := Option.map_eq_some_iff.mp h
    split_ifs at hopen with hij
    · cases old with
      | «open» s => exact howned s t (hp.owned j s hold) hopen
      | closed n t => cases hopen
    · rw [hopen] at hold
      exact hp.owned j t hold

/-- **Every move keeps the numbers in order.** -/
theorem step (hp : Numbered p) (m : Move τ ω) : Numbered (p.step m) := by
  cases m with
  | start t w => exact hp.add t w
  | restart i w =>
      rw [Process.step]
      split
      · exact hp.add _ w
      · exact hp
  | close i => exact hp.change i (fun s => rfl) (fun s t hs h => by cases h)
  | call i a =>
      refine hp.change i (fun s => s.number_perform a) (fun s t hs h => ?_)
      cases h
      exact hs.perform a
  | send i c =>
      refine hp.change i (fun s => ?_) (fun s t hs h => ?_)
      · show (s.command c).state.number = s.number
        rw [(s.command_eq c.encode_eq).2]
      · cases h
        exact hs.command c
  | touch i t =>
      refine hp.change i (fun s => rfl) (fun s t hs h => ?_)
      cases h
      exact hs.of_registry rfl rfl

omit [Transport τ] in
/-- While the numbers last, different sessions have different ones. -/
theorem number_ne (hp : Numbered p) (hfew : p.slots.length < 2 ^ 64) {i j : Nat}
    {slot slot' : Slot τ ω} (hi : p.slots[i]? = some slot) (hj : p.slots[j]? = some slot')
    (hij : i ≠ j) : slot.number ≠ slot'.number := by
  have hilt := (List.getElem?_eq_some_iff.mp hi).1
  have hjlt := (List.getElem?_eq_some_iff.mp hj).1
  rw [hp.number i slot hi, hp.number j slot' hj]
  intro h
  have hnat := congrArg UInt64.toNat h
  rw [UInt64.toNat_ofNat', UInt64.toNat_ofNat', Nat.mod_eq_of_lt (by omega),
    Nat.mod_eq_of_lt (by omega)] at hnat
  omega

/-- **A session hands out its own handles only.** -/
theorem session_of_issues (hp : Numbered p) {i : Nat} {h : GroupHandle} (hissues : p.Issues i h) :
    h.session = .ofNat (i + 1) := by
  obtain ⟨s, hs, hissued⟩ := hissues
  have hnumber : s.number = .ofNat (i + 1) := hp.number i _ hs
  have howned := hp.owned i s hs
  rw [← hnumber]
  rcases hissued with ⟨a, hbound⟩ | ⟨g, hfound⟩ | ⟨a, c, hc, rfl⟩
  · obtain ⟨g, rfl⟩ := Session.exists_handleOf_of_bound hbound
    exact howned.session
  · obtain ⟨e, he, rfl⟩ := Option.map_eq_some_iff.mp hfound
    rw [howned.handle g e he]
  · have hhandle : c.handle = ⟨s.number, _⟩ :=
      howned.handle _ _ (Session.find?_of_mem_callsOf hc)
    rw [hhandle]

end Numbered

omit [Transport τ] in
/-- A change that leaves a session as it is changes nothing. -/
theorem change_of_idle {p : Process τ ω} {i : Nat} {s : Session τ ω} {f : Session τ ω → Slot τ ω}
    (hs : p.slots[i]? = some (.open s)) (hf : f s = .open s) : p.change i f = p := by
  have hslots : p.slots.modify i (Slot.change f) = p.slots := by
    refine List.ext_getElem? fun j => ?_
    rw [List.getElem?_modify]
    by_cases hij : i = j
    · subst hij
      rw [hs]
      exact congrArg some ((if_pos rfl).trans hf)
    · simp only [if_neg hij]
      exact Option.map_id'
  rw [change, hslots]

theorem numbered_run (moves : List (Move τ ω)) : Numbered (run {} moves) :=
  run_induction .empty (fun _ m hq => hq.step m) moves

/-- A process forgets no session. -/
theorem length_le_run (p : Process τ ω) (moves : List (Move τ ω)) :
    p.slots.length ≤ (p.run moves).slots.length := by
  have hadd (q : Process τ ω) (t : τ) (w : ω) : q.slots.length ≤ (q.add t w).slots.length := by
    simp [add]
  have hchange (q : Process τ ω) (i : Nat) (f : Session τ ω → Slot τ ω) :
      q.slots.length ≤ (q.change i f).slots.length := by
    simp [change]
  refine run_induction (motive := fun q => p.slots.length ≤ q.slots.length) (le_refl _)
    (fun q m hq => hq.trans ?_) moves
  cases m with
  | start t w => exact hadd q t w
  | restart i w =>
      rw [step]
      split
      · exact hadd q _ w
      · exact le_refl _
  | close i => exact hchange q i _
  | call i a => exact hchange q i _
  | send i c => exact hchange q i _
  | touch i t => exact hchange q i _

end Process

/-- **Handles never act across sessions.** However the sessions of a process come and go and
whatever is called on them, the sessions have different numbers while the numbers last; a handle
carries the number of the session that handed it out; and a call with it on any other session says
that it is stale, does not use the transport, and changes nothing in any session. -/
theorem handles_stay_with_their_session {τ ω : Type} [Transport τ] (moves : List (Move τ ω))
    (hfew : (Process.run {} moves).slots.length < 2 ^ 64) :
    let p := Process.run {} moves
    (p.slots.map Slot.number).Nodup ∧
      ∀ (before after : List (Move τ ω)) (i : Nat) (h : GroupHandle), moves = before ++ after →
        (Process.run {} before).Issues i h →
          (p.slots[i]?).map Slot.number = some h.session ∧
            ∀ (j : Nat) (s : Session τ ω) (a : Action ω), j ≠ i → p.slots[j]? = some (.open s) →
              a.handle? = some h →
                s.perform a = { result := .error .staleHandle, state := s } ∧
                  s.usesOf [a] = [] ∧ p.step (.call j a) = p := by
  intro p
  have hp : p.Numbered := Process.numbered_run moves
  refine ⟨?_, fun before after i h hmoves hissues => ?_⟩
  · rw [List.Nodup, List.pairwise_map, List.pairwise_iff_getElem]
    intro i j hi hj hij
    exact hp.number_ne hfew (List.getElem?_eq_getElem hi) (List.getElem?_eq_getElem hj) hij.ne
  · have hsession : h.session = .ofNat (i + 1) :=
      (Process.numbered_run before).session_of_issues hissues
    -- the session that handed `h` out is still there
    obtain ⟨slot, hslot⟩ : ∃ slot, p.slots[i]? = some slot := by
      obtain ⟨s, hs, -⟩ := hissues
      have hlt := (List.getElem?_eq_some_iff.mp hs).1
      have hle := (Process.run {} before).length_le_run after
      rw [← Process.run_append, ← hmoves] at hle
      exact ⟨_, List.getElem?_eq_getElem (lt_of_lt_of_le hlt hle)⟩
    have hnumber : slot.number = h.session := by
      rw [hp.number i slot hslot, hsession]
    refine ⟨by rw [hslot, Option.map_some, hnumber], fun j s a hji hs ha => ?_⟩
    have hforeign : h.session ≠ s.registry.session := by
      rw [← hnumber, (hp.owned j s hs).session]
      exact hp.number_ne hfew hslot hs hji.symm
    have hstale := Registry.resolve_of_foreign hforeign
    have hperform := Session.perform_of_error ha hstale
    refine ⟨hperform, Session.usesOf_of_error ha hstale, Process.change_of_idle hs ?_⟩
    rw [hperform]

/-- A session is closed, another one takes its transport over and binds the same group; the first
one's handle is stale in it. -/
theorem closed_session_handle_is_stale :
    let h : GroupHandle := { session := 1, group := 1 }
    let before : List (Move ScriptedTransport Unit) := [.start {} ()]
    let after : List (Move ScriptedTransport Unit) :=
      [.call 0 (.bindGroup 1), .close 0, .restart 0 (), .call 1 (.bindGroup 1)]
    let p := Process.run {} (before ++ after)
    p.slots.length < 2 ^ 64 ∧ (Process.run {} before).Issues 0 h ∧
      ∃ s, p.slots[1]? = some (.open s) ∧ s.number = 2 ∧ s.groupList = [1] ∧
        s.transport.sent.length = 2 ∧
        s.perform (.setTimeout h 100) = { result := .error .staleHandle, state := s } ∧
        p.step (.call 1 (.setTimeout h 100)) = p := by
  intro h before after p
  have hfew : p.slots.length < 2 ^ 64 := by decide +kernel
  have hissues : (Process.run {} before).Issues 0 h :=
    ⟨_, rfl, Or.inl ⟨.bindGroup 1, by decide +kernel⟩⟩
  obtain ⟨-, hhandles⟩ := handles_stay_with_their_session (before ++ after) hfew
  obtain ⟨-, hstale⟩ := hhandles before after 0 h rfl hissues
  obtain ⟨hperform, -, hstep⟩ := hstale 1 _ (.setTimeout h 100) (by decide) rfl rfl
  exact ⟨hfew, hissues, _, rfl, by decide +kernel, by decide +kernel, by decide +kernel, hperform,
    hstep⟩

end PacketLog
