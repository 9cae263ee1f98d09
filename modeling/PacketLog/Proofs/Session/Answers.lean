import Mathlib
import PacketLog.Proofs.Session.Watched

set_option autoImplicit false

/-! # What the handlers answer

The calls that a watched session has written down tell what the handlers answered: each is called in
the world that the ones before it have left (`answersOf`). A delivery leaves the world that the last
call leaves, and it is halted by the first negative answer and by nothing else
(`Session.accounts_deliver`). -/

namespace PacketLog

variable {τ ω : Type}

/-- What a handler does when it is called. -/
def HandlerCall.answer (c : HandlerCall ω) (w : ω) : Outcome ω Int32 :=
  c.handler c.handle c.header c.record w

/-- The answers to calls that are made one after the other. -/
def answersOf : List (HandlerCall ω) → ω → List Int32
  | [], _ => []
  | c :: rest, w => (c.answer w).result :: answersOf rest (c.answer w).state

/-- The world that the calls leave. -/
def worldAfter (calls : List (HandlerCall ω)) (w : ω) : ω :=
  calls.foldl (fun w c => (c.answer w).state) w

/-- The first negative answer. -/
def firstNegative (calls : List (HandlerCall ω)) (w : ω) : Option Int32 :=
  (answersOf calls w).find? (· < 0)

theorem answersOf_append (calls later : List (HandlerCall ω)) (w : ω) :
    answersOf (calls ++ later) w = answersOf calls w ++ answersOf later (worldAfter calls w) := by
  induction calls generalizing w with
  | nil => rfl
  | cons c rest ih =>
      rw [List.cons_append, answersOf, ih]
      rfl

/-- One more call is made in the world that the others leave. -/
theorem worldAfter_snoc (calls : List (HandlerCall ω)) (c : HandlerCall ω) (w : ω) :
    worldAfter (calls ++ [c]) w = (c.answer (worldAfter calls w)).state :=
  List.foldl_concat _ w c calls

/-- A first negative answer is negative. -/
theorem lt_of_firstNegative {calls : List (HandlerCall ω)} {w : ω} {code : Int32}
    (h : firstNegative calls w = some code) : code < 0 := by
  have hcode := List.find?_some h
  exact of_decide_eq_true hcode

/-- The code with which a handler has halted a delivery. -/
def haltCode : Except SessionError Delivery → Option Int32
  | .ok (.halted code) => some code
  | _ => none

/-- As long as no answer was negative, the next one decides. -/
theorem firstNegative_snoc {calls : List (HandlerCall ω)} {w : ω}
    (h : firstNegative calls w = none) (c : HandlerCall ω) :
    firstNegative (calls ++ [c]) w =
      haltCode (.ok (Session.deliveryOf (c.answer (worldAfter calls w)).result)) := by
  have hlast (code : Int32) :
      [code].find? (· < 0) = haltCode (.ok (Session.deliveryOf code)) := by
    by_cases hcode : code < 0
    · have hfound : [code].find? (· < 0) = some code := by simp [hcode]
      rw [hfound, Session.deliveryOf, if_pos hcode]
      rfl
    · have hfound : [code].find? (· < 0) = none := by simpa using hcode
      rw [hfound, Session.deliveryOf, if_neg hcode]
      rfl
  calc firstNegative (calls ++ [c]) w
      = (firstNegative calls w).or
          ([(c.answer (worldAfter calls w)).result].find? (· < 0)) := by
        rw [firstNegative, answersOf_append, List.find?_append]
        rfl
    _ = haltCode (.ok (Session.deliveryOf (c.answer (worldAfter calls w)).result)) := by
        rw [h, Option.none_or, hlast]

/-- The calls account for a world and for what has halted the delivery. -/
structure Accounts (w : ω) (calls : List (HandlerCall ω)) (w' : ω) (code : Option Int32) :
    Prop where
  world : worldAfter calls w = w'
  code : firstNegative calls w = code

/-- Before the first call there is nothing to account for. -/
theorem Accounts.nil (w : ω) : Accounts w [] w none := ⟨rfl, rfl⟩

namespace Session

variable {s : Session τ ω} {w : ω} {calls : List (HandlerCall ω)}

/-- A message for which no call is due changes nothing. -/
theorem dispatch_of_no_call {m : Message} (h : s.callOf m = none) :
    (s.dispatch m).state = s ∧ ∃ e, (s.dispatch m).result = .error e := by
  cases s.reading m with
  | malformed e hgroup =>
      rw [dispatch_of_malformed hgroup]
      exact ⟨rfl, _, rfl⟩
  | unbound header attrs hgroup hfind =>
      rw [dispatch_of_unbound hgroup hfind]
      exact ⟨rfl, _, rfl⟩
  | unhandled header attrs handle hgroup hfind =>
      rw [dispatch_of_unhandled hgroup hfind]
      exact ⟨rfl, _, rfl⟩
  | unreadable header attrs handle handler e hgroup hfind hrecord =>
      rw [dispatch_of_unreadable hgroup hfind hrecord]
      exact ⟨rfl, _, rfl⟩
  | due header attrs handle handler record hgroup hfind hrecord =>
      simp only [callOf, hgroup, hfind, hrecord] at h
      cases h

/-- A message for which a call is due is answered by the handler. -/
theorem dispatch_of_call {m : Message} {c : HandlerCall ω} (h : s.callOf m = some c) :
    (s.dispatch m).state.world = (c.answer s.world).state ∧
      (s.dispatch m).result = .ok (deliveryOf (c.answer s.world).result) := by
  cases s.reading m with
  | malformed e hgroup =>
      simp only [callOf, hgroup] at h
      cases h
  | unbound header attrs hgroup hfind =>
      simp only [callOf, hgroup, hfind] at h
      cases h
  | unhandled header attrs handle hgroup hfind =>
      simp only [callOf, hgroup, hfind] at h
      cases h
  | unreadable header attrs handle handler e hgroup hfind hrecord =>
      simp only [callOf, hgroup, hfind, hrecord] at h
      cases h
  | due header attrs handle handler record hgroup hfind hrecord =>
      simp only [callOf, hgroup, hfind, hrecord, Option.some.injEq] at h
      subst h
      rw [dispatch_of_due hgroup hfind hrecord]
      exact ⟨rfl, rfl⟩

/-- **One message is accounted for** by the call that is due for it. -/
theorem accounts_dispatch (h : Accounts w calls s.world none) (m : Message) :
    Accounts w (calls ++ (s.callOf m).toList) (s.dispatch m).state.world
      (haltCode (s.dispatch m).result) := by
  cases hcall : s.callOf m with
  | none =>
      obtain ⟨hstate, e, hresult⟩ := dispatch_of_no_call hcall
      rw [hstate, hresult, Option.toList_none, List.append_nil]
      exact h
  | some c =>
      obtain ⟨hworld, hresult⟩ := dispatch_of_call hcall
      rw [Option.toList_some, hworld, hresult]
      constructor
      · rw [worldAfter_snoc, h.world]
      · rw [firstNegative_snoc h.code, h.world]

/-- **A watched batch is accounted for** by the calls that are written down. -/
theorem accounts_deliver (items : List (Except WireError Message))
    (h : Accounts w calls s.world none) :
    let o := deliver items (s.watched calls)
    Accounts w o.state.world.calls o.state.world.world (haltCode o.result) := by
  induction items generalizing s calls with
  | nil => exact h
  | cons item rest ih =>
      cases item with
      | error e => exact h
      | ok m =>
          have hm := accounts_dispatch h m
          have hdispatch := s.watched_dispatch calls m
          have hresult : ((s.watched calls).dispatch m).result = (s.dispatch m).result := by
            rw [hdispatch]
            rfl
          cases (s.watched calls).progress m with
          | goesOn events hkind hgoes hdeliver =>
              have hopen : haltCode (s.dispatch m).result = none := by
                rw [hresult] at hgoes
                rcases hgoes with hgoes | ⟨e, hgoes, -⟩
                · rw [hgoes]
                  rfl
                · rw [hgoes]
                  rfl
              rw [hopen] at hm
              simp only [hdeliver, Outcome.state_after, Outcome.result_after, hdispatch,
                Outcome.state_within]
              exact ih hm
          | ends hkind hends hdeliver =>
              simp only [hdeliver, hdispatch, Outcome.state_within, Outcome.result_within]
              exact hm
          | done hkind hdone hdeliver =>
              simp only [hdeliver]
              exact h
          | ignored hkind hdone hdeliver =>
              simp only [hdeliver, Outcome.state_after, Outcome.result_after]
              exact ih h

/-- Watching a batch changes nothing, and the calls account for what comes of it. -/
theorem watched_handlePacket_accounts (bytes : Bytes) (h : Accounts w calls s.world none) :
    ∃ new, (s.watched calls).handlePacket bytes =
        (s.handlePacket bytes).within (·.watched (calls ++ new)) ∧
      Accounts w (calls ++ new) (s.handlePacket bytes).state.world
        (haltCode (s.handlePacket bytes).result) := by
  obtain ⟨seen, unseen, -, hwatched⟩ := s.watched_deliver (Message.split bytes) calls
  have haccounts := s.accounts_deliver (Message.split bytes) h
  rw [hwatched] at haccounts
  exact ⟨seen.filterMap s.callFor, hwatched, haccounts⟩

end Session

end PacketLog
