import Mathlib
import PacketLog.Proofs.Session.Atomicity
import PacketLog.Proofs.Session.Watched

set_option autoImplicit false

/-! # The history of a run

A `Step` is a call as it is seen from outside: the answer it got, the uses that were made of the
transport, and the calls of handlers. What a step does to a subscription can be told from that
(`Step.Binds`, `Step.Ends`, `Step.Installs`, `Step.Clears`), and it is the change that the call
makes in the registry (`Session.binds_step_iff` and its neighbours). -/

namespace PacketLog

/-- The call with a handler that writes its own calls down. -/
def Action.watched {ω : Type} : Action ω → Action (Watched ω)
  | bindGroup g => .bindGroup g
  | bindGroupWith g handler => .bindGroupWith g (Handler.watched handler)
  | unbindGroup h => .unbindGroup h
  | setCallback h handler => .setCallback h (Handler.watched handler)
  | clearCallback h => .clearCallback h
  | bindFamily family => .bindFamily family
  | unbindFamily family => .unbindFamily family
  | setMode h mode range => .setMode h mode range
  | setTimeout h n => .setTimeout h n
  | setQueueThreshold h n => .setQueueThreshold h n
  | setBufferSize h n => .setBufferSize h n
  | setFlags h bits => .setFlags h bits
  | applyConfig h config => .applyConfig h config
  | handleMessage bytes => .handleMessage bytes
  | handlePacket bytes => .handlePacket bytes
  | processNext => .processNext

theorem Action.isCommand_watched {ω : Type} (a : Action ω) :
    a.watched.isCommand = a.isCommand := by
  cases a <;> rfl

namespace Session

variable {τ ω : Type} [Transport τ]

/-! ## The calls of one step -/

/-- The calls of handlers that a call leads to, as the watched session writes them down. -/
def callsOf (s : Session τ ω) (a : Action ω) : List (HandlerCall ω) :=
  (s.watched.perform a.watched).state.world.calls

theorem callsOf_command (s : Session τ ω) {a : Action ω} (ha : a.isCommand = true) :
    s.callsOf a = [] := by
  have hworld : (s.watched.perform a.watched).state.world = s.watched.world :=
    s.watched.world_perform (by rw [a.isCommand_watched, ha])
  rw [callsOf, hworld]
  rfl

/-- **A watched delivery is the delivery**, and the calls are those that are due for some of the
messages. -/
theorem watched_perform (s : Session τ ω) {a : Action ω} (ha : a.isCommand = false) :
    (∃ items : List (Except WireError Message), s.callsOf a = items.filterMap s.callFor) ∧
      s.watched.perform a.watched = (s.perform a).within (·.watched (s.callsOf a)) := by
  have hdue : ∃ items : List (Except WireError Message), s.watched.perform a.watched =
      (s.perform a).within (·.watched (items.filterMap s.callFor)) := by
    cases a with
    | handleMessage bytes =>
        obtain ⟨items, h⟩ := s.watched_handleMessage bytes
        exact ⟨items, (Outcome.within_mapResult h.symm _).symm⟩
    | handlePacket bytes =>
        obtain ⟨items, h⟩ := s.watched_handlePacket bytes
        exact ⟨items, (Outcome.within_mapResult h.symm _).symm⟩
    | processNext =>
        obtain ⟨items, h⟩ := s.watched_processNext
        exact ⟨items, (Outcome.within_mapResult h.symm _).symm⟩
    | _ => cases ha
  obtain ⟨items, h⟩ := hdue
  have hcalls : s.callsOf a = items.filterMap s.callFor := by
    rw [callsOf, h]
    rfl
  exact ⟨⟨items, hcalls⟩, by rw [hcalls, h]⟩

theorem callsOf_handleMessage (s : Session τ ω) {bytes : Bytes} {m : Message}
    (h : Message.parse bytes = .ok m) (hkind : m.header.kind = recordKind) :
    s.callsOf (.handleMessage bytes) = (s.callOf m).toList := by
  have hmessage : s.watched.handleMessage bytes = s.watched.dispatch m := by
    rw [handleMessage, h]
    exact if_pos hkind
  have hperform : s.callsOf (.handleMessage bytes) =
      (s.watched.handleMessage bytes).state.world.calls := rfl
  rw [hperform, hmessage, watched_dispatch, List.nil_append]
  rfl

/-- **Whoever is called is installed for the record's group**, and called with its handle. -/
theorem find?_of_mem_callsOf {s : Session τ ω} {a : Action ω} {c : HandlerCall ω}
    (h : c ∈ s.callsOf a) :
    s.registry.find? c.header.group = some { handle := c.handle, handler := some c.handler } := by
  by_cases ha : a.isCommand = true
  · rw [s.callsOf_command ha] at h
    cases h
  · obtain ⟨⟨items, hcalls⟩, -⟩ := s.watched_perform (Bool.eq_false_iff.mpr ha)
    rw [hcalls] at h
    exact find?_of_mem_callFor h

end Session

/-! ## Steps -/

/-- A call as it is seen from outside. -/
structure Step (ω : Type) where
  action : Action ω
  result : Except SessionError Response
  /-- The uses that were made of the transport. -/
  uses : List TransportUse
  /-- The calls of handlers. -/
  calls : List (HandlerCall ω)

namespace Step

variable {ω : Type}

/-- The call succeeds. -/
def Succeeds (step : Step ω) : Prop := ∃ r, step.result = .ok r

/-- The kernel acknowledges the bind of group `g`, and `h` is handed out for it. -/
def Binds (step : Step ω) (g : UInt16) (h : GroupHandle) : Prop :=
  .bindGroup ∈ acknowledgements g step.uses ∧ step.result = .ok (.bound h)

/-- The kernel acknowledges the unbind of group `g`. -/
def Ends (step : Step ω) (g : UInt16) : Prop :=
  .unbindGroup ∈ acknowledgements g step.uses

/-- The handler `f` is installed for group `g`, when it is bound or later. -/
def Installs (step : Step ω) (g : UInt16) (f : Handler ω) : Prop :=
  step.Succeeds ∧
    (step.action = .bindGroupWith g f ∨ ∃ h, step.action = .setCallback h f ∧ h.group = g)

/-- The handler of group `g` is taken away. -/
def Clears (step : Step ω) (g : UInt16) : Prop :=
  step.Succeeds ∧ ∃ h, step.action = .clearCallback h ∧ h.group = g

end Step

namespace Session

variable {τ ω : Type} [Transport τ]

/-- The step that a call makes. -/
def step (s : Session τ ω) (a : Action ω) : Step ω :=
  { action := a, result := (s.perform a).result, uses := s.usesOf [a], calls := s.callsOf a }

/-- The steps of a run, the first one first. -/
def history (s : Session τ ω) : List (Action ω) → List (Step ω)
  | [] => []
  | a :: rest => s.step a :: (s.perform a).state.history rest

theorem history_snoc (s : Session τ ω) (before : List (Action ω)) (a : Action ω) :
    s.history (before ++ [a]) = s.history before ++ [(s.performAll before).step a] := by
  induction before generalizing s with
  | nil => rfl
  | cons first rest ih =>
      rw [List.cons_append, history, ih]
      rfl

/-- Each step of a run is the step of a call in the state that the steps before it lead to. -/
theorem exists_of_history_eq {s : Session τ ω} {actions : List (Action ω)}
    {before after : List (Step ω)} {x : Step ω} (h : s.history actions = before ++ x :: after) :
    ∃ done a, before = s.history done ∧ x = (s.performAll done).step a := by
  induction actions generalizing s before with
  | nil =>
      rw [history] at h
      cases before <;> cases h
  | cons a rest ih =>
      rw [history] at h
      cases before with
      | nil =>
          obtain ⟨rfl, -⟩ := List.cons.inj h
          exact ⟨[], a, rfl, rfl⟩
      | cons first before =>
          obtain ⟨rfl, htail⟩ := List.cons.inj h
          obtain ⟨done, a', rfl, rfl⟩ := ih htail
          exact ⟨a :: done, a', rfl, rfl⟩

/-! ## Steps as changes of the registry -/

/-- The change that a call makes. -/
def changeOf (s : Session τ ω) (a : Action ω) : Change (Handler ω) :=
  a.change (s.perform a).result

theorem effect_recorded (s : Session τ ω) (a : Action ω) :
    Effect s.recorded (s.recorded.perform a).state (s.changeOf a) := by
  have hresult : (s.perform a).result = (s.recorded.perform a).result := by
    rw [perform_recorded]
    rfl
  rw [changeOf, hresult]
  exact s.recorded.effect_perform a

theorem find?_perform (s : Session τ ω) (a : Action ω) (g : UInt16) :
    (s.perform a).state.registry.find? g =
      (s.changeOf a).entry s.registry.session g (s.registry.find? g) := by
  have hentry := (s.effect_recorded a).entry g
  rw [perform_recorded]
  exact hentry

theorem acknowledgements_usesOf (s : Session τ ω) (a : Action ω) (g : UInt16) :
    acknowledgements g (s.usesOf [a]) = (s.changeOf a).acknowledged g := by
  obtain ⟨new, huses, hacks⟩ := (s.effect_recorded a).uses
  have hnew : s.usesOf [a] = new := huses
  rw [hnew, hacks]

/-- A bind that succeeds hands out the handle of this session for the group. -/
theorem result_of_bound {s : Session τ ω} {a : Action ω} {g : UInt16} {f : Option (Handler ω)}
    (h : s.changeOf a = .bound g f) :
    (s.perform a).result = .ok (.bound (s.registry.handleOf g)) := by
  cases hr : (s.perform a).result with
  | error e =>
      rw [changeOf, hr, Action.change_error] at h
      cases h
  | ok r =>
      rw [changeOf, hr] at h
      -- only the two calls that bind make such a change
      cases a with
      | bindGroup k =>
          obtain ⟨rfl, -⟩ : k = g ∧ none = f := by simpa [Action.change] using h
          have hperform : (s.perform (.bindGroup k)).result =
              (s.recorded.bindGroup k).result.map .bound := by
            rw [perform_recorded]
            rfl
          rw [hperform] at hr
          rcases s.recorded.settled_bindGroup k with ⟨e, hfailed⟩ | ⟨hok, -⟩
          · rw [hfailed.result] at hr
            cases hr
          · rw [← hr, hok]
            rfl
      | bindGroupWith k handler =>
          obtain ⟨rfl, -⟩ : k = g ∧ some handler = f := by simpa [Action.change] using h
          have hperform : (s.perform (.bindGroupWith k handler)).result =
              (s.recorded.bindGroupWith k handler).result.map .bound := by
            rw [perform_recorded]
            rfl
          rw [hperform] at hr
          rcases s.recorded.settled_bindGroupWith k handler with ⟨e, hfailed⟩ | ⟨hok, -⟩
          · rw [hfailed.result] at hr
            cases hr
          · rw [← hr, hok]
            rfl
      | _ => cases h

/-- Only a bind answers with a handle, and it is this session's. -/
theorem exists_handleOf_of_bound {s : Session τ ω} {a : Action ω} {h : GroupHandle}
    (hr : (s.perform a).result = .ok (.bound h)) : ∃ g, h = s.registry.handleOf g := by
  have hbind : ∃ g f, s.changeOf a = .bound g f := by
    have hchange : s.changeOf a = a.change (.ok (.bound h)) := by
      rw [changeOf, hr]
    have hanswer {α : Type} {o : Outcome (Session τ ω) (Except SessionError α)}
        {answer : α → Response} (ho : (o.mapResult (·.map answer)).result = .ok (.bound h)) :
        ∃ v, answer v = .bound h := by
      rw [Outcome.result_mapResult] at ho
      cases hv : o.result with
      | error e =>
          rw [hv] at ho
          cases ho
      | ok v =>
          rw [hv] at ho
          exact ⟨v, Except.ok.inj ho⟩
    cases a with
    | bindGroup g => exact ⟨g, none, hchange⟩
    | bindGroupWith g handler => exact ⟨g, some handler, hchange⟩
    | _ =>
        obtain ⟨v, hv⟩ := hanswer hr
        cases hv
  obtain ⟨g, f, hbound⟩ := hbind
  rw [result_of_bound hbound] at hr
  cases hr
  exact ⟨g, rfl⟩

variable {s : Session τ ω} {a : Action ω} {g : UInt16}

/-- A call that succeeds makes its change, and any other makes none. -/
theorem succeeds_of_changeOf (h : s.changeOf a ≠ .none) : (s.step a).Succeeds := by
  cases hr : (s.perform a).result with
  | ok r => exact ⟨r, hr⟩
  | error e =>
      rw [changeOf, hr, Action.change_error] at h
      exact absurd rfl h

/-- **A bind is acknowledged when the registry gets the group**, and it hands out its handle. -/
theorem binds_step_iff {h : GroupHandle} :
    (s.step a).Binds g h ↔ (∃ f, s.changeOf a = .bound g f) ∧ h = s.registry.handleOf g := by
  constructor
  · rintro ⟨hack, hresult⟩
    have hchange : ∃ f, s.changeOf a = .bound g f := by
      rw [step, acknowledgements_usesOf] at hack
      cases hc : s.changeOf a with
      | none => simp [hc, Change.acknowledged] at hack
      | bound k f =>
          by_cases hk : k = g
          · exact ⟨f, by rw [hk]⟩
          · simp [hc, Change.acknowledged, hk] at hack
      | ended k => simp [hc, Change.acknowledged] at hack
      | handed k f => simp [hc, Change.acknowledged] at hack
    obtain ⟨f, hf⟩ := hchange
    refine ⟨⟨f, hf⟩, ?_⟩
    have hbound := result_of_bound hf
    rw [step, hbound] at hresult
    cases hresult
    rfl
  · rintro ⟨⟨f, hf⟩, rfl⟩
    refine ⟨?_, result_of_bound hf⟩
    rw [step, acknowledgements_usesOf, hf]
    simp [Change.acknowledged]

theorem ends_step_iff : (s.step a).Ends g ↔ s.changeOf a = .ended g := by
  rw [Step.Ends, step, acknowledgements_usesOf]
  cases hc : s.changeOf a with
  | ended k => by_cases hk : k = g <;> simp [Change.acknowledged, hk]
  | bound k f => by_cases hk : k = g <;> simp [Change.acknowledged, hk]
  | none => simp [Change.acknowledged]
  | handed k f => simp [Change.acknowledged]

theorem installs_step_iff {f : Handler ω} : (s.step a).Installs g f ↔
    s.changeOf a = .bound g (some f) ∨ s.changeOf a = .handed g (some f) := by
  constructor
  · rintro ⟨⟨r, hresult⟩, haction⟩
    have hr : (s.perform a).result = .ok r := hresult
    rcases haction with haction | ⟨h, haction, rfl⟩
    · have ha : a = .bindGroupWith g f := haction
      refine Or.inl ?_
      rw [changeOf, hr, ha]
      rfl
    · have ha : a = .setCallback h f := haction
      refine Or.inr ?_
      rw [changeOf, hr, ha]
      rfl
  · intro h
    have hsucceeds : (s.step a).Succeeds := by
      apply succeeds_of_changeOf
      rcases h with h | h <;> simp [h]
    refine ⟨hsucceeds, ?_⟩
    obtain ⟨r, hresult⟩ := hsucceeds
    have hr : (s.perform a).result = .ok r := hresult
    rw [changeOf, hr] at h
    cases a <;> simp [Action.change] at h
    · exact Or.inl (by rw [step, h.1, h.2])
    · rename_i handle handler
      exact Or.inr ⟨handle, by rw [step, h.2], h.1⟩

theorem clears_step_iff : (s.step a).Clears g ↔ s.changeOf a = .handed g none := by
  constructor
  · rintro ⟨⟨r, hresult⟩, h, haction, rfl⟩
    have hr : (s.perform a).result = .ok r := hresult
    have ha : a = .clearCallback h := haction
    rw [changeOf, hr, ha]
    rfl
  · intro h
    have hsucceeds : (s.step a).Succeeds := by
      apply succeeds_of_changeOf
      simp [h]
    refine ⟨hsucceeds, ?_⟩
    obtain ⟨r, hresult⟩ := hsucceeds
    have hr : (s.perform a).result = .ok r := hresult
    rw [changeOf, hr] at h
    cases a <;> simp [Action.change] at h
    rename_i handle
    exact ⟨handle, rfl, h⟩

end Session

end PacketLog
