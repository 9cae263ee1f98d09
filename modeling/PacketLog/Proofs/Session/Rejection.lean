import Mathlib
import PacketLog.Proofs.Session.Effect
import PacketLog.Proofs.Session.Stable
import PacketLog.Proofs.Socket.Waiting

set_option autoImplicit false

/-! # Error numbers of rejections

A rejection bears the opposite of the verdict that the kernel gave (`Reply.Opposes`), which is a
positive error number if and only if the verdict is negative. What a command of a session fails
with is the registry's own error, or comes from a request that its transport made
(`Session.blames_perform`), so the same holds of every rejection that a session passes on
(`rejection_positive_iff_verdict_negative`). -/

namespace PacketLog

/-! ## Verdicts and rejections -/

namespace Reply

/-- A rejection with the number `code` answers the verdict `said`: it is the opposite, as far as
there is one, and is positive just for the verdicts that the kernel gives on what it declines. -/
structure Opposes (said code : Int32) : Prop where
  nonzero : said ≠ 0
  value : code.toInt = min (-said.toInt) (2 ^ 31 - 1)
  positive : 1 ≤ code ↔ said < 0

/-- The least verdict has no opposite; it gives the greatest number. -/
theorem toInt_opposite (said : Int32) : (opposite said).toInt = min (-said.toInt) (2 ^ 31 - 1) := by
  unfold opposite
  split_ifs with hleast
  · rw [hleast]
    rfl
  · have hne : said.toInt ≠ -2 ^ 31 := fun h => hleast (Int32.toInt_inj.mp h)
    have hlow := said.le_toInt
    have hhigh := said.toInt_lt
    rw [Int32.toInt_neg, Int.bmod_eq_of_le (by omega) (by omega)]
    omega

theorem opposes_opposite {said : Int32} (h : said ≠ 0) : Opposes said (opposite said) where
  nonzero := h
  value := toInt_opposite said
  positive := by
    rw [Int32.le_iff_toInt_le, Int32.lt_iff_toInt_lt, toInt_opposite, Int32.toInt_zero,
      Int32.toInt_one]
    omega

/-- **A rejection answers a verdict on the request.** -/
theorem exists_of_rejected {d : Bytes} {seq : UInt32} {code : Int32}
    (h : classify d seq = .ok (.rejected code)) :
    ∃ said, IsVerdict d said seq ∧ Opposes said code := by
  have hspec := classify_spec d seq
  rw [h] at hspec
  obtain ⟨said, hne, rfl, hverdict⟩ := hspec
  exact ⟨said, hverdict, opposes_opposite hne⟩

end Reply

/-- The verdict that a request was rejected with is the last thing it heard. -/
theorem Socket.exists_heard_of_rejected {t : Socket} {message : Bytes} {code : Int32}
    (h : (t.request message).result = .error (.rejected code)) :
    ∃ d, (t.heard message).getLast? = some d ∧
      ∃ said, Reply.IsVerdict d said t.nextSeq ∧ Reply.Opposes said code := by
  have hcredited := (t.requested_request message).proper.credited
  rw [h] at hcredited
  obtain ⟨d, said, hlast, hne, rfl, hverdict⟩ := hcredited
  exact ⟨d, hlast, said, hverdict, Reply.opposes_opposite hne⟩

/-! ## Where the errors of a session come from -/

/-- The states that a transport is led to by its own operations. -/
inductive Transport.Leads {τ : Type} [Transport τ] (t : τ) : τ → Prop where
  | refl : Leads t t
  | request {u : τ} (message : Bytes) : Leads t u → Leads t (Transport.request message u).state
  | receive {u : τ} : Leads t u → Leads t (Transport.receive u).state
  | setReceiveBufferSize {u : τ} (size : Nat) :
      Leads t u → Leads t (Transport.setReceiveBufferSize size u).state
  | reserveMessageSize {u : τ} (size : Nat) :
      Leads t u → Leads t (Transport.reserveMessageSize size u).state

namespace Transport.Leads

variable {τ : Type} [Transport τ]

theorem stable (t : τ) : Transport.Stable (Leads t) where
  request message := .request message
  receive := .receive
  setReceiveBufferSize size := .setReceiveBufferSize size
  reserveMessageSize size := .reserveMessageSize size

theorem trans {t u v : τ} (h : Leads t u) (h' : Leads u v) : Leads t v := by
  induction h' with
  | refl => exact h
  | request message _ ih => exact ih.request message
  | receive _ ih => exact ih.receive
  | setReceiveBufferSize size _ ih => exact ih.setReceiveBufferSize size
  | reserveMessageSize size _ ih => exact ih.reserveMessageSize size

end Transport.Leads

namespace Session

variable {τ ω α β : Type}

/-- The error of a request that is made when the transport of `s` has come to `t`. -/
def Declined [Transport τ] (s : Session τ ω) (e : SessionError) : Prop :=
  ∃ t, Transport.Leads s.transport t ∧ ∃ message error,
    (Transport.request message t).result = .error error ∧ e = .ofTransport error

/-- What fails does so for the registry's sake, or because a request has failed. -/
def Blames [Transport τ] (s : Session τ ω)
    (o : Outcome (Session τ ω) (Except SessionError α)) : Prop :=
  ∀ e, o.result = .error e → e.isLocal = true ∨ s.Declined e

theorem isLocal_of_resolve {r : Registry (Handler ω)} {h : GroupHandle} {e : SessionError}
    (herr : r.resolve h = .error e) : e.isLocal = true := by
  unfold Registry.resolve at herr
  split_ifs at herr with hforeign
  · cases herr
    rfl
  · split at herr
    · cases herr
    · cases herr
      rfl

section Blame

variable [Transport τ] {s : Session τ ω}

theorem Declined.of_leads {t : Session τ ω} (ht : Transport.Leads s.transport t.transport)
    {e : SessionError} (h : t.Declined e) : s.Declined e :=
  h.imp fun _ hu => ⟨ht.trans hu.1, hu.2⟩

namespace Blames

theorem of_ok {o : Outcome (Session τ ω) (Except SessionError α)} {a : α}
    (h : o.result = .ok a) : Blames s o := by
  intro e he
  cases h.symm.trans he

theorem of_isLocal {o : Outcome (Session τ ω) (Except SessionError α)} {e : SessionError}
    (h : o.result = .error e) (he : e.isLocal = true) : Blames s o := by
  intro e' he'
  cases h.symm.trans he'
  exact Or.inl he

theorem andThen {o : Outcome (Session τ ω) (Except SessionError α)}
    {next : α → Session τ ω → Outcome (Session τ ω) (Except SessionError β)} (h : Blames s o)
    (hleads : Transport.Leads s.transport o.state.transport)
    (hnext : ∀ a t, o.result = .ok a → Blames t (next a t)) :
    Blames s (o.andThen next) := by
  intro e he
  cases hresult : o.result with
  | error e' =>
      rw [Outcome.andThen_of_error hresult] at he
      cases he
      exact h e hresult
  | ok a =>
      rw [Outcome.andThen_of_ok hresult] at he
      exact (hnext a o.state hresult e he).imp_right (.of_leads hleads)

theorem mapResult {o : Outcome (Session τ ω) (Except SessionError α)} (h : Blames s o)
    (answer : α → β) : Blames s (o.mapResult (·.map answer)) :=
  fun e he => h e (result_of_mapResult he)

/-- The registry declines nothing but for its own sake. -/
theorem onRegistry {r : Except SessionError (α × Registry (Handler ω))}
    (h : ∀ e, r = .error e → e.isLocal = true) : Blames s (s.onRegistry r) := by
  cases r with
  | ok p => exact of_ok rfl
  | error e => exact of_isLocal rfl (h e rfl)

end Blames

theorem blames_command (s : Session τ ω) (c : GroupCommand) : Blames s (s.command c) := by
  intro e he
  rw [(s.command_eq c.encode_eq).1] at he
  cases hrequest : (Transport.request _ s.transport).result with
  | error error =>
      rw [hrequest] at he
      cases he
      exact Or.inr ⟨s.transport, .refl, _, error, hrequest, rfl⟩
  | ok v =>
      rw [hrequest] at he
      cases he

theorem blames_groupCommand (s : Session τ ω) (h : GroupHandle) (c : Command) :
    Blames s (s.groupCommand h c) := by
  cases hr : s.registry.resolve h with
  | error e =>
      rw [groupCommand_of_error hr]
      exact .of_isLocal rfl (isLocal_of_resolve hr)
  | ok entry =>
      rw [groupCommand_of_ok hr]
      exact s.blames_command _

theorem blames_applyCommand (s : Session τ ω) (h : GroupHandle) (c : Command) :
    Blames s (s.applyCommand h c) := by
  cases c with
  | bufferSize bytes =>
      -- making room for larger batches never fails
      exact (s.blames_groupCommand h _).andThen ((Transport.Leads.stable _).groupCommand .refl h _)
        fun _ _ _ => .of_ok rfl
  | _ => exact s.blames_groupCommand h _

theorem blames_applyCommands (h : GroupHandle) (commands : List Command) (s : Session τ ω) :
    Blames s (applyCommands h commands s) := by
  induction commands generalizing s with
  | nil => exact .of_ok rfl
  | cons c rest ih =>
      exact (s.blames_applyCommand h c).andThen ((Transport.Leads.stable _).applyCommand .refl h c)
        fun _ t _ => ih t

theorem blames_setHandler (s : Session τ ω) (h : GroupHandle) (handler : Option (Handler ω))
    (answer : Registry (Handler ω) → α × Registry (Handler ω)) :
    Blames s (s.onRegistry ((s.registry.setHandler h handler).map answer)) := by
  refine .onRegistry fun e he => ?_
  cases hr : s.registry.resolve h with
  | error e' =>
      rw [Registry.setHandler_of_error hr] at he
      cases he
      exact isLocal_of_resolve hr
  | ok entry =>
      rw [Registry.setHandler_of_ok hr] at he
      cases he

theorem blames_bindGroup (s : Session τ ω) (g : UInt16) : Blames s (s.bindGroup g) := by
  cases hf : s.registry.find? g with
  | some entry =>
      rw [bindGroup, hf]
      exact .of_isLocal rfl rfl
  | none =>
      rw [bindGroup, hf]
      refine (s.blames_command _).andThen ((Transport.Leads.stable _).command .refl _) ?_
      rintro _ t -
      refine Blames.andThen (.onRegistry fun e he => ?_) (Transport.Stable.onRegistry .refl _)
        fun _ _ _ => .of_ok rfl
      -- entering a group fails only if it is bound
      unfold Registry.insert at he
      split at he
      · cases he
        rfl
      · cases he

theorem blames_unbindGroup (s : Session τ ω) (h : GroupHandle) : Blames s (s.unbindGroup h) := by
  cases hr : s.registry.resolve h with
  | error e =>
      rw [unbindGroup, hr]
      exact .of_isLocal rfl (isLocal_of_resolve hr)
  | ok entry =>
      rw [unbindGroup, hr]
      refine (s.blames_command _).andThen ((Transport.Leads.stable _).command .refl _) ?_
      rintro _ t -
      refine .onRegistry fun e he => ?_
      cases ht : t.registry.resolve h with
      | error e' =>
          rw [Registry.remove_of_error ht] at he
          cases he
          exact isLocal_of_resolve ht
      | ok entry =>
          rw [Registry.remove_of_ok ht] at he
          cases he

/-- **A command fails for the registry's sake, or because a request that it made has failed.** -/
theorem blames_perform (s : Session τ ω) {a : Action ω} (ha : a.isCommand = true) :
    Blames s (s.perform a) := by
  cases a with
  | bindGroup g => exact (s.blames_bindGroup g).mapResult _
  | bindGroupWith g handler =>
      refine Blames.mapResult ?_ _
      exact (s.blames_bindGroup g).andThen ((Transport.Leads.stable _).bindGroup .refl g)
        fun _ t _ => t.blames_setHandler _ _ _
  | unbindGroup h => exact (s.blames_unbindGroup h).mapResult _
  | setCallback h handler => exact (s.blames_setHandler h _ _).mapResult _
  | clearCallback h => exact (s.blames_setHandler h _ _).mapResult _
  | bindFamily family => exact (s.blames_command _).mapResult _
  | unbindFamily family => exact (s.blames_command _).mapResult _
  | setMode h mode range => exact (s.blames_groupCommand h _).mapResult _
  | setTimeout h n => exact (s.blames_groupCommand h _).mapResult _
  | setQueueThreshold h n => exact (s.blames_groupCommand h _).mapResult _
  | setBufferSize h n => exact (s.blames_applyCommand h (.bufferSize n)).mapResult _
  | setFlags h bits => exact (s.blames_groupCommand h _).mapResult _
  | applyConfig h config => exact (blames_applyCommands h config.commands s).mapResult _
  | handleMessage bytes => cases ha
  | handlePacket bytes => cases ha
  | processNext => cases ha

end Blame

end Session

/-- **A rejection bears a positive error number if and only if the verdict is negative.** Whatever
the datagram and the code in it: the number of a rejection is the opposite of the code, except that
the least of all codes, which has none, gives the greatest number. So it is when a datagram is
classified, in a rejection of a request, whose verdict is the last thing that the request heard, and
in a rejection that a command of a session passes on, which comes from a request that its socket has
made. -/
theorem rejection_positive_iff_verdict_negative {ω : Type} (code : Int32) (d : Bytes) (seq : UInt32)
    (t : Socket) (message : Bytes) (s : Session Socket ω) (a : Action ω) :
    (Reply.classify d seq = .ok (.rejected code) →
      ∃ said, Reply.IsVerdict d said seq ∧ Reply.Opposes said code) ∧
    ((t.request message).result = .error (.rejected code) →
      ∃ d, (t.heard message).getLast? = some d ∧
        ∃ said, Reply.IsVerdict d said t.nextSeq ∧ Reply.Opposes said code) ∧
    (a.isCommand = true → (s.perform a).result = .error (.rejected code) →
      ∃ t, Transport.Leads s.transport t ∧
        ∃ message, (t.request message).result = .error (.rejected code) ∧
          ∃ d, (t.heard message).getLast? = some d ∧
            ∃ said, Reply.IsVerdict d said t.nextSeq ∧ Reply.Opposes said code) := by
  refine ⟨Reply.exists_of_rejected, Socket.exists_heard_of_rejected, fun ha hcode => ?_⟩
  rcases s.blames_perform ha _ hcode with hlocal | ⟨t, hleads, message, error, hrequest, herror⟩
  · cases hlocal
  · -- only a rejection is passed on as one
    have hrejected : error = .rejected code := by
      cases error <;> cases herror
      rfl
    rw [hrejected] at hrequest
    exact ⟨t, hleads, message, hrequest, Socket.exists_heard_of_rejected hrequest⟩

/-- A verdict with the code 5, where a kernel that declines a request says -5, gives a rejection
with the number -5, and so it is passed on when a group is bound. -/
theorem rejection_with_negative_number :
    let kernel : Kernel := { answers := [[.verdict 5 0]] }
    let socket : Socket := { kernel, address := 4242, nextSeq := 7 }
    let s : Session Socket Unit := (Session.start {} socket ()).1
    Reply.classify (Kernel.verdict 5 7) 7 = .ok (.rejected (-5)) ∧
      (s.perform (.bindGroup 5)).result = .error (.rejected (-5)) ∧
      ¬ ∀ d seq code, Reply.classify d seq = .ok (.rejected code) → 1 ≤ code := by
  have hclassify : Reply.classify (Kernel.verdict 5 7) 7 = .ok (.rejected (-5)) := by
    decide +kernel
  refine ⟨hclassify, by decide +kernel, fun hall => ?_⟩
  have hpositive := hall _ _ _ hclassify
  exact absurd hpositive (by decide)

end PacketLog
