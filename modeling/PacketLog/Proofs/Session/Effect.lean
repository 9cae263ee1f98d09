import Mathlib
import PacketLog.Proofs.Session.Acknowledged
import PacketLog.Proofs.Session.Change
import PacketLog.Proofs.Session.Dispatch
import PacketLog.Proofs.Session.Registry

set_option autoImplicit false

/-! # What a call can do to a session

`Session.Effect` says of two states of a session that a `Change` leads from one to the other, and
`Session.effect_perform` says which change a call makes, given how it answered. A command that
fails has no effect, and one that the registry declines does nothing at all
(`Session.failed_perform`). All that is said of runs follows from these two. -/

namespace PacketLog

namespace Session

variable {τ ω : Type}

/-- The change `c` leads from `s` to `t`. -/
structure Effect (s t : Session (Recorded τ) ω) (c : Change (Handler ω)) : Prop where
  number : t.number = s.number
  session : t.registry.session = s.registry.session
  entry : ∀ g, t.registry.find? g = c.entry s.registry.session g (s.registry.find? g)
  uses : ∃ new, t.transport.uses = s.transport.uses ++ new ∧
    ∀ g, acknowledgements g new = c.acknowledged g
  allowed : c.Allowed s.registry

theorem Quiet.effect {s t : Session (Recorded τ) ω} (h : Quiet s t) : Effect s t .none :=
  ⟨h.number, by rw [h.registry], fun g => by rw [h.registry]; rfl, h.uses, trivial⟩

/-- The outcome of a command that fails with `e`. -/
structure Failed {α : Type} (s : Session (Recorded τ) ω)
    (o : Outcome (Session (Recorded τ) ω) (Except SessionError α)) (e : SessionError) : Prop where
  result : o.result = .error e
  quiet : Quiet s o.state
  untouched : e.isLocal = true → o.state = s

namespace Failed

variable {α β : Type} {s : Session (Recorded τ) ω} {e : SessionError}
  {o : Outcome (Session (Recorded τ) ω) (Except SessionError α)}

/-- The registry declines, and nothing is done. -/
theorem of_untouched (s : Session (Recorded τ) ω) (e : SessionError) :
    Failed s ({ result := .error e, state := s } : Outcome _ (Except SessionError α)) e :=
  ⟨rfl, .refl s, fun _ => rfl⟩

/-- What follows on a success is not done. -/
theorem andThen (h : Failed s o e)
    (next : α → Session (Recorded τ) ω → Outcome (Session (Recorded τ) ω) (Except SessionError β)) :
    Failed s (o.andThen next) e := by
  rw [Outcome.andThen_of_error h.result]
  exact ⟨rfl, h.quiet, h.untouched⟩

/-- The answer of a success does not matter. -/
theorem mapResult (h : Failed s o e) (answer : α → β) :
    Failed s (o.mapResult (·.map answer)) e := by
  refine ⟨?_, h.quiet, h.untouched⟩
  rw [Outcome.result_mapResult, h.result]
  rfl

end Failed

/-- What a command can come to: it fails, or it answers `v` and makes the change `c`. -/
def Settled {α : Type} (s : Session (Recorded τ) ω)
    (o : Outcome (Session (Recorded τ) ω) (Except SessionError α)) (v : α)
    (c : Change (Handler ω)) : Prop :=
  (∃ e, Failed s o e) ∨ (o.result = .ok v ∧ Effect s o.state c)

theorem Settled.after {α : Type} {s : Session (Recorded τ) ω}
    {o : Outcome (Session (Recorded τ) ω) (Except SessionError α)} {v : α}
    {c : Change (Handler ω)} (h : Settled s o v c) (earlier : List Event) :
    Settled s (o.after earlier) v c := by
  rcases h with ⟨e, hfailed⟩ | ⟨hok, heffect⟩
  · exact Or.inl ⟨e, hfailed.result, hfailed.quiet, hfailed.untouched⟩
  · exact Or.inr ⟨hok, heffect⟩

/-- A failure is never one of the answer. -/
theorem result_of_mapResult {σ α β : Type} {o : Outcome σ (Except SessionError α)}
    {answer : α → β} {e : SessionError} (h : (o.mapResult (·.map answer)).result = .error e) :
    o.result = .error e := by
  rw [Outcome.result_mapResult] at h
  cases hr : o.result with
  | ok v =>
      rw [hr] at h
      cases h
  | error e' =>
      rw [hr] at h
      cases h
      rfl

/-! ## Deliveries -/

theorem quiet_of_world {s t : Session (Recorded τ) ω} (h : t = { s with world := t.world }) :
    Quiet s t :=
  .of_transport (by rw [h]) (by rw [h]) (by rw [h])

variable [Transport τ]

theorem quiet_processNext (s : Session (Recorded τ) ω) : Quiet s s.processNext.state := by
  let o := s.onTransport (Transport.receive s.transport)
  have hreceive : Quiet s o.state :=
    .of_use rfl rfl (Recorded.uses_receive _) fun _ => rfl
  cases hr : o.result with
  | error e =>
      rw [processNext, Outcome.andThen_of_error hr]
      exact hreceive
  | ok bytes =>
      rw [processNext, Outcome.andThen_of_ok hr]
      exact hreceive.trans (quiet_of_world (state_deliver _ _))

/-! ## Commands that fail -/

/-- The error of a command is the transport's, not the registry's. -/
theorem isLocal_command {s : Session (Recorded τ) ω} {c : GroupCommand} {e : SessionError}
    (h : (s.command c).result = .error e) : e.isLocal = false := by
  obtain ⟨message, verdict, -, hresult, -, -, -⟩ := s.command_cases c
  rw [h] at hresult
  cases verdict with
  | ok v => cases hresult
  | error e' =>
      cases hresult
      exact SessionError.isLocal_ofTransport e'

theorem failed_command {s : Session (Recorded τ) ω} {c : GroupCommand} {e : SessionError}
    (h : (s.command c).result = .error e) : Failed s (s.command c) e := by
  refine ⟨h, quiet_command_of_error h, fun hlocal => ?_⟩
  rw [isLocal_command h] at hlocal
  cases hlocal

/-- While the handle is live, no error of a command for its group is the registry's. -/
theorem isLocal_applyCommand {s : Session (Recorded τ) ω} {h : GroupHandle}
    {entry : GroupEntry (Handler ω)} (hlive : s.registry.resolve h = .ok entry) {c : Command}
    {e : SessionError} (herr : (s.applyCommand h c).result = .error e) : e.isLocal = false := by
  -- making room for larger batches never fails, so the error is that of the command itself
  have hgroup : (s.groupCommand h c).result = .error e := by
    cases c with
    | bufferSize bytes =>
        cases hr : (s.groupCommand h (.bufferSize bytes)).result with
        | error e' =>
            rw [applyCommand_bufferSize, setBufferSize, Outcome.andThen_of_error hr] at herr
            exact herr
        | ok v =>
            rw [applyCommand_bufferSize, setBufferSize, Outcome.andThen_of_ok hr] at herr
            cases herr
    | _ => exact herr
  rw [groupCommand_of_ok hlive] at hgroup
  exact isLocal_command hgroup

theorem isLocal_applyCommands {h : GroupHandle} {entry : GroupEntry (Handler ω)}
    {commands : List Command} (hc : ∀ c ∈ commands, c.isSubscription = false)
    {s : Session (Recorded τ) ω} (hlive : s.registry.resolve h = .ok entry) {e : SessionError}
    (herr : (applyCommands h commands s).result = .error e) : e.isLocal = false := by
  induction commands generalizing s with
  | nil => cases herr
  | cons c rest ih =>
      have hfirst := s.quiet_applyCommand h (hc c List.mem_cons_self)
      cases hr : (s.applyCommand h c).result with
      | error e' =>
          rw [applyCommands, Outcome.andThen_of_error hr] at herr
          cases herr
          exact isLocal_applyCommand hlive hr
      | ok v =>
          rw [applyCommands, Outcome.andThen_of_ok hr] at herr
          -- the first command leaves the registry alone, so the handle is still live
          refine ih (fun c hc' => hc c (List.mem_cons_of_mem _ hc')) ?_ herr
          rw [hfirst.registry]
          exact hlive

theorem failed_applyCommand {s : Session (Recorded τ) ω} {h : GroupHandle} {c : Command}
    (hc : c.isSubscription = false) {e : SessionError}
    (herr : (s.applyCommand h c).result = .error e) : Failed s (s.applyCommand h c) e := by
  refine ⟨herr, s.quiet_applyCommand h hc, fun hlocal => ?_⟩
  cases hl : s.registry.resolve h with
  | ok entry =>
      rw [isLocal_applyCommand hl herr] at hlocal
      cases hlocal
  | error e' => rw [applyCommand_of_error hl]

/-- **A configuration fails at a command that the kernel declines, or at once**, before anything
is sent, because the handle is not live. -/
theorem failed_applyCommands {s : Session (Recorded τ) ω} {h : GroupHandle}
    {commands : List Command} (hc : ∀ c ∈ commands, c.isSubscription = false) {e : SessionError}
    (herr : (applyCommands h commands s).result = .error e) :
    Failed s (applyCommands h commands s) e := by
  refine ⟨herr, quiet_applyCommands h hc s, fun hlocal => ?_⟩
  cases hl : s.registry.resolve h with
  | ok entry =>
      rw [isLocal_applyCommands hc hl herr] at hlocal
      cases hlocal
  | error e' =>
      cases commands with
      | nil => rfl
      | cons c rest =>
          rw [applyCommands, applyCommand_of_error hl]
          rfl

/-! ## Binding and unbinding -/

omit [Transport τ] in
/-- After a use of the transport, a change of the registry alone completes the effect. -/
theorem Effect.of_registry {s t : Session (Recorded τ) ω} {r : Registry (Handler ω)}
    {c : Change (Handler ω)} {use : TransportUse} (hnumber : t.number = s.number)
    (huses : t.transport.uses = s.transport.uses ++ [use])
    (hacks : ∀ g, acknowledgements g [use] = c.acknowledged g)
    (hsession : r.session = s.registry.session)
    (hentry : ∀ g, r.find? g = c.entry s.registry.session g (s.registry.find? g))
    (hallowed : c.Allowed s.registry) : Effect s { t with registry := r } c :=
  ⟨hnumber, hsession, hentry, ⟨[use], huses, hacks⟩, hallowed⟩

/-- **A bind fails, or binds the group**: it was not bound, the kernel acknowledged the bind, and
the handle is the one of this session for the group. -/
theorem settled_bindGroup (g : UInt16) (s : Session (Recorded τ) ω) :
    Settled s (s.bindGroup g) (s.registry.handleOf g) (.bound g none) := by
  cases hf : s.registry.find? g with
  | some e =>
      rw [bindGroup, hf]
      exact Or.inl ⟨_, .of_untouched s _⟩
  | none =>
      have hbind : s.bindGroup g =
          (s.command { command := .bindGroup, group := g }).andThen fun _ s => s.register g := by
        rw [bindGroup, hf]
      obtain ⟨message, verdict, henc, hresult, hnumber, hregistry, huses⟩ :=
        s.command_cases { command := .bindGroup, group := g }
      cases verdict with
      | error e =>
          rw [hbind]
          exact Or.inl ⟨_, (failed_command hresult).andThen _⟩
      | ok v =>
          rw [hbind, Outcome.andThen_of_ok hresult]
          refine .after ?_ _
          generalize (s.command { command := .bindGroup, group := g }).state = t at *
          -- asking the kernel has not changed the registry, so the group is still free in `t`
          obtain ⟨hok, hstate⟩ := t.register_of_absent (g := g) (by rw [hregistry, hf])
          rw [hregistry] at hok hstate
          refine Or.inr ⟨hok, ?_⟩
          rw [hstate]
          refine .of_registry hnumber huses (fun g' => ?_) rfl (fun g' => ?_) hf
          · rw [acknowledgements_accepted henc]
            simp [Change.acknowledged, Command.isSubscription]
          · exact Registry.find?_put _ _ _ _

/-- A bind with a handler fails, or binds the group and installs the handler. -/
theorem settled_bindGroupWith (g : UInt16) (handler : Handler ω) (s : Session (Recorded τ) ω) :
    Settled s (s.bindGroupWith g handler) (s.registry.handleOf g) (.bound g (some handler)) := by
  rcases s.settled_bindGroup g with ⟨e, hfailed⟩ | ⟨hresult, heffect⟩
  · exact Or.inl ⟨e, hfailed.andThen _⟩
  · rw [bindGroupWith, Outcome.andThen_of_ok hresult]
    refine .after ?_ _
    generalize (s.bindGroup g).state = t at *
    have hentry : t.registry.find? g = some { handle := s.registry.handleOf g } := by
      rw [heffect.entry]
      exact if_pos rfl
    -- the handle that was just handed out is live, so the handler can be installed
    have hlive := Registry.resolve_eq_ok_iff.mpr
      (show (s.registry.handleOf g).session = t.registry.session ∧ _ from
        ⟨heffect.session.symm, hentry⟩)
    rw [Registry.setHandler_of_ok hlive]
    refine Or.inr ⟨rfl, heffect.number, heffect.session, fun g' => ?_, heffect.uses,
      heffect.allowed⟩
    refine (Registry.find?_put _ _ _ g').trans ?_
    rw [heffect.entry]
    show (if g = g' then _ else if g = g' then _ else _) = if g = g' then _ else _
    split_ifs <;> rfl

/-- **An unbind fails, or unbinds the group**: the handle is live, and the kernel acknowledged the
unbind. -/
theorem settled_unbindGroup (h : GroupHandle) (s : Session (Recorded τ) ω) :
    Settled s (s.unbindGroup h) () (.ended h.group) := by
  cases hl : s.registry.resolve h with
  | error e =>
      rw [unbindGroup, hl]
      exact Or.inl ⟨e, .of_untouched s e⟩
  | ok entry =>
      have hunbind : s.unbindGroup h =
          (s.command { command := .unbindGroup, group := h.group }).andThen fun _ s =>
            s.onRegistry ((s.registry.remove h).map fun removed => ((), removed.2)) := by
        rw [unbindGroup, hl]
      obtain ⟨message, verdict, henc, hresult, hnumber, hregistry, huses⟩ :=
        s.command_cases { command := .unbindGroup, group := h.group }
      cases verdict with
      | error e =>
          rw [hunbind]
          exact Or.inl ⟨_, (failed_command hresult).andThen _⟩
      | ok v =>
          rw [hunbind, Outcome.andThen_of_ok hresult]
          refine .after ?_ _
          generalize (s.command { command := .unbindGroup, group := h.group }).state = t at *
          -- asking the kernel has not changed the registry, so the handle is still live in `t`
          rw [hregistry, Registry.remove_of_ok hl]
          have hbound : (s.registry.find? h.group).isSome = true := by
            rw [(Registry.resolve_eq_ok_iff.mp hl).2]
            rfl
          refine Or.inr ⟨rfl, .of_registry hnumber huses (fun g' => ?_) rfl (fun g' => ?_) hbound⟩
          · rw [acknowledgements_accepted henc]
            simp [Change.acknowledged, Command.isSubscription]
          · exact Registry.find?_erase _ _ _

omit [Transport τ] in
/-- Installing a handler or taking it away fails, or changes the handler of a bound group. The
kernel is not asked. -/
theorem settled_setHandler (h : GroupHandle) (handler : Option (Handler ω))
    (s : Session (Recorded τ) ω) :
    Settled s (s.onRegistry ((s.registry.setHandler h handler).map fun r => ((), r))) ()
      (.handed h.group handler) := by
  cases hl : s.registry.resolve h with
  | error e =>
      rw [Registry.setHandler_of_error hl]
      exact Or.inl ⟨e, .of_untouched s e⟩
  | ok entry =>
      have hentry := (Registry.resolve_eq_ok_iff.mp hl).2
      rw [Registry.setHandler_of_ok hl]
      refine Or.inr ⟨rfl, rfl, rfl, fun g' => ?_, ⟨[], (List.append_nil _).symm, fun _ => rfl⟩, ?_⟩
      · refine (Registry.find?_put _ _ _ g').trans ?_
        show _ = if h.group = g' then _ else _
        split_ifs with hg
        · rw [← hg, hentry]
          rfl
        · rfl
      · show (s.registry.find? h.group).isSome = true
        rw [hentry]
        rfl

/-! ## Every call -/

variable {s : Session (Recorded τ) ω}

omit [Transport τ] in
/-- A command has the effect that its answer tells of. -/
theorem Settled.effect {α : Type} {o : Outcome (Session (Recorded τ) ω) (Except SessionError α)}
    {c : Change (Handler ω)} {v : α} (h : Settled s o v c) (a : Action ω)
    (answer : α → Response) (hchange : a.change (.ok (answer v)) = c) :
    Effect s o.state (a.change (o.result.map answer)) := by
  rcases h with ⟨e, hfailed⟩ | ⟨hresult, heffect⟩
  · rw [hfailed.result]
    show Effect s o.state (a.change (.error e))
    rw [a.change_error]
    exact hfailed.quiet.effect
  · rw [hresult]
    show Effect s o.state (a.change (.ok (answer v)))
    rw [hchange]
    exact heffect

/-- **Every call has the effect that its answer tells of.** -/
theorem effect_perform (s : Session (Recorded τ) ω) (a : Action ω) :
    Effect s (s.perform a).state (a.change (s.perform a).result) := by
  cases a with
  | bindGroup g => exact (s.settled_bindGroup g).effect _ .bound rfl
  | bindGroupWith g handler => exact (s.settled_bindGroupWith g handler).effect _ .bound rfl
  | unbindGroup h => exact (s.settled_unbindGroup h).effect _ (fun _ => .done) rfl
  | setCallback h handler =>
      exact (s.settled_setHandler h (some handler)).effect _ (fun _ => .done) rfl
  | clearCallback h => exact (s.settled_setHandler h none).effect _ (fun _ => .done) rfl
  | bindFamily family =>
      exact (s.quiet_command (c := { command := .bindFamily, group := 0, family }) rfl).effect
  | unbindFamily family =>
      exact (s.quiet_command (c := { command := .unbindFamily, group := 0, family }) rfl).effect
  | setMode h mode range => exact (s.quiet_groupCommand h (c := .mode mode range) rfl).effect
  | setTimeout h n => exact (s.quiet_groupCommand h (c := .timeout n) rfl).effect
  | setQueueThreshold h n => exact (s.quiet_groupCommand h (c := .queueThreshold n) rfl).effect
  | setBufferSize h n => exact (s.quiet_applyCommand h (c := .bufferSize n) rfl).effect
  | setFlags h bits => exact (s.quiet_groupCommand h (c := .flags bits) rfl).effect
  | applyConfig h config =>
      exact (quiet_applyCommands h (fun _ => GroupConfig.isSubscription_of_mem) s).effect
  | handleMessage bytes => exact (quiet_of_world (s.state_handleMessage bytes)).effect
  | handlePacket bytes => exact (quiet_of_world (state_deliver _ s)).effect
  | processNext => exact s.quiet_processNext.effect

omit [Transport τ] in
theorem Settled.failed {α : Type} {o : Outcome (Session (Recorded τ) ω) (Except SessionError α)}
    {c : Change (Handler ω)} {v : α} (h : Settled s o v c) {answer : α → Response}
    {e : SessionError} (herr : (o.mapResult (·.map answer)).result = .error e) :
    Failed s (o.mapResult (·.map answer)) e := by
  have hresult := result_of_mapResult herr
  rcases h with ⟨e', hfailed⟩ | ⟨hok, -⟩
  · have he : e' = e := by
      rw [hfailed.result] at hresult
      cases hresult
      rfl
    rw [← he]
    exact hfailed.mapResult answer
  · rw [hok] at hresult
    cases hresult

/-- **A command that fails is quiet, and one that the registry declines does nothing.** -/
theorem failed_perform {a : Action ω} (ha : a.isCommand = true) {e : SessionError}
    (herr : (s.perform a).result = .error e) : Failed s (s.perform a) e := by
  cases a with
  | bindGroup g => exact (s.settled_bindGroup g).failed herr
  | bindGroupWith g handler => exact (s.settled_bindGroupWith g handler).failed herr
  | unbindGroup h => exact (s.settled_unbindGroup h).failed herr
  | setCallback h handler => exact (s.settled_setHandler h _).failed herr
  | clearCallback h => exact (s.settled_setHandler h _).failed herr
  | bindFamily family => exact (failed_command (result_of_mapResult herr)).mapResult _
  | unbindFamily family => exact (failed_command (result_of_mapResult herr)).mapResult _
  | setMode h mode range =>
      exact (failed_applyCommand (c := .mode mode range) rfl (result_of_mapResult herr)).mapResult _
  | setTimeout h n =>
      exact (failed_applyCommand (c := .timeout n) rfl (result_of_mapResult herr)).mapResult _
  | setQueueThreshold h n =>
      exact (failed_applyCommand (c := .queueThreshold n) rfl
        (result_of_mapResult herr)).mapResult _
  | setBufferSize h n =>
      exact (failed_applyCommand (c := .bufferSize n) rfl (result_of_mapResult herr)).mapResult _
  | setFlags h bits =>
      exact (failed_applyCommand (c := .flags bits) rfl (result_of_mapResult herr)).mapResult _
  | applyConfig h config =>
      exact (failed_applyCommands (fun _ => GroupConfig.isSubscription_of_mem)
        (result_of_mapResult herr)).mapResult _
  | handleMessage bytes => cases ha
  | handlePacket bytes => cases ha
  | processNext => cases ha

end Session

end PacketLog
