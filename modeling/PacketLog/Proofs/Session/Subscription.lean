import Mathlib
import PacketLog.Proofs.Session.History
import PacketLog.Proofs.Session.Mirror

set_option autoImplicit false

/-! # Deliveries follow the subscriptions

Whether a group is bound, and who receives its records, can be told from the steps of a run so
far (`Bound`, `Subscribed`). In every state that can be reached the registry holds exactly that
(`Session.Tracks`), so handlers are called as the past tells (`calls_follow_subscriptions`). -/

namespace PacketLog

variable {ω : Type}

/-! ## What the past tells -/

/-- Some step satisfies `P`, and none after it satisfies `Q`. -/
def Since (P Q : Step ω → Prop) (past : List (Step ω)) : Prop :=
  ∃ before step after, past = before ++ step :: after ∧ P step ∧ ∀ later ∈ after, ¬ Q later

/-- The group was bound under the handle, and its subscription has not ended since. -/
def Bound (past : List (Step ω)) (g : UInt16) (h : GroupHandle) : Prop :=
  Since (·.Binds g h) (·.Ends g) past

/-- The group was bound under the handle, its subscription has not ended since, and the handler
is the last that was installed since, and was not taken away again. -/
def Subscribed (past : List (Step ω)) (g : UInt16) (h : GroupHandle) (f : Handler ω) : Prop :=
  ∃ before bind after, past = before ++ bind :: after ∧ bind.Binds g h ∧
    (∀ later ∈ after, ¬ later.Ends g) ∧
      Since (·.Installs g f) (fun later => later.Clears g ∨ ∃ f', later.Installs g f')
        (bind :: after)

theorem Subscribed.bound {past : List (Step ω)} {g : UInt16} {h : GroupHandle} {f : Handler ω}
    (hs : Subscribed past g h f) : Bound past g h := by
  obtain ⟨before, bind, after, hpast, hbinds, hends, -⟩ := hs
  exact ⟨before, bind, after, hpast, hbinds, hends⟩

/-- A place in a list that got one more element is its end or a place from before. -/
theorem exists_split_snoc {α : Type} {l : List α} {x : α} {R : α → List α → Prop} :
    (∃ before y after, l ++ [x] = before ++ y :: after ∧ R y after) ↔
      R x [] ∨ ∃ before y after, l = before ++ y :: after ∧ R y (after ++ [x]) := by
  constructor
  · rintro ⟨before, y, after, hl, hR⟩
    rcases List.eq_nil_or_concat' after with rfl | ⟨init, z, rfl⟩
    · have hsplit : l ++ [x] = before ++ [y] := hl
      obtain ⟨-, hxy⟩ := List.append_inj' hsplit rfl
      cases hxy
      exact Or.inl hR
    · have hsplit : l ++ [x] = (before ++ y :: init) ++ [z] := by
        rw [hl, List.append_assoc, List.cons_append]
      obtain ⟨hinit, hxz⟩ := List.append_inj' hsplit rfl
      cases hxz
      exact Or.inr ⟨before, y, init, hinit, hR⟩
  · rintro (hR | ⟨before, y, after, rfl, hR⟩)
    · exact ⟨l, x, [], rfl, hR⟩
    · refine ⟨before, y, after ++ [x], ?_, hR⟩
      rw [List.append_assoc, List.cons_append]

theorem since_snoc {P Q : Step ω → Prop} {past : List (Step ω)} {x : Step ω} :
    Since P Q (past ++ [x]) ↔ P x ∨ (Since P Q past ∧ ¬ Q x) := by
  refine exists_split_snoc.trans (or_congr ?_ ?_)
  · constructor
    · rintro ⟨hP, -⟩
      exact hP
    · intro hP
      exact ⟨hP, fun later hlater => absurd hlater List.not_mem_nil⟩
  · constructor
    · rintro ⟨before, step, after, hpast, hP, hQ⟩
      refine ⟨⟨before, step, after, hpast, hP, fun later hlater => ?_⟩, ?_⟩
      · exact hQ later (List.mem_append_left _ hlater)
      · exact hQ x (List.mem_append_right _ (List.mem_singleton_self x))
    · rintro ⟨⟨before, step, after, hpast, hP, hQ⟩, hx⟩
      refine ⟨before, step, after, hpast, hP, fun later hlater => ?_⟩
      rcases List.mem_append.mp hlater with hlater | hlater
      · exact hQ later hlater
      · rw [List.mem_singleton.mp hlater]
        exact hx

theorem since_nil {P Q : Step ω → Prop} : ¬ Since P Q [] := by
  rintro ⟨before, step, after, hpast, -⟩
  cases before <;> cases hpast

theorem since_singleton {P Q : Step ω → Prop} {x : Step ω} : Since P Q [x] ↔ P x := by
  have hsnoc := @since_snoc ω P Q [] x
  rw [List.nil_append] at hsnoc
  rw [hsnoc]
  constructor
  · rintro (hP | ⟨hnil, -⟩)
    · exact hP
    · exact absurd hnil since_nil
  · intro hP
    exact Or.inl hP

/-- **One more step changes who is subscribed** as it binds, ends, installs and clears. -/
theorem subscribed_snoc {past : List (Step ω)} {x : Step ω} {g : UInt16} {h : GroupHandle}
    {f : Handler ω} :
    Subscribed (past ++ [x]) g h f ↔
      (x.Binds g h ∧ x.Installs g f) ∨ (Bound past g h ∧ ¬ x.Ends g ∧ x.Installs g f) ∨
        (Subscribed past g h f ∧ ¬ x.Ends g ∧ ¬ (x.Clears g ∨ ∃ f', x.Installs g f')) := by
  have hlast : (x.Binds g h ∧ (∀ later ∈ ([] : List (Step ω)), ¬ later.Ends g) ∧
      Since (·.Installs g f) (fun later => later.Clears g ∨ ∃ f', later.Installs g f') [x]) ↔
        x.Binds g h ∧ x.Installs g f := by
    rw [since_singleton]
    constructor
    · rintro ⟨hbinds, -, hinstalls⟩
      exact ⟨hbinds, hinstalls⟩
    · rintro ⟨hbinds, hinstalls⟩
      exact ⟨hbinds, fun later hlater => absurd hlater List.not_mem_nil, hinstalls⟩
  -- the bind is the new step, or an earlier one; then the handler comes with the new step or not
  rw [Subscribed, exists_split_snoc, hlast]
  refine or_congr Iff.rfl ?_
  constructor
  · rintro ⟨before, bind, after, hpast, hbinds, hends, hsince⟩
    have hx : ¬ x.Ends g := hends x (List.mem_append_right _ (List.mem_singleton_self x))
    have hafter : ∀ later ∈ after, ¬ later.Ends g := fun later hlater =>
      hends later (List.mem_append_left _ hlater)
    rw [← List.cons_append, since_snoc] at hsince
    rcases hsince with hinstalls | ⟨hsince, hquiet⟩
    · exact Or.inl ⟨⟨before, bind, after, hpast, hbinds, hafter⟩, hx, hinstalls⟩
    · exact Or.inr ⟨⟨before, bind, after, hpast, hbinds, hafter, hsince⟩, hx, hquiet⟩
  · have hends {after : List (Step ω)} (hafter : ∀ later ∈ after, ¬ later.Ends g)
        (hx : ¬ x.Ends g) : ∀ later ∈ after ++ [x], ¬ later.Ends g := by
      intro later hlater
      rcases List.mem_append.mp hlater with hlater | hlater
      · exact hafter later hlater
      · rw [List.mem_singleton.mp hlater]
        exact hx
    rintro (⟨⟨before, bind, after, hpast, hbinds, hafter⟩, hx, hinstalls⟩ |
      ⟨⟨before, bind, after, hpast, hbinds, hafter, hsince⟩, hx, hquiet⟩)
    · refine ⟨before, bind, after, hpast, hbinds, hends hafter hx, ?_⟩
      rw [← List.cons_append, since_snoc]
      exact Or.inl hinstalls
    · refine ⟨before, bind, after, hpast, hbinds, hends hafter hx, ?_⟩
      rw [← List.cons_append, since_snoc]
      exact Or.inr ⟨hsince, hquiet⟩

/-- A step that neither binds nor ends, neither installs nor clears. -/
structure Step.Idle (x : Step ω) : Prop where
  binds : ∀ g h, ¬ x.Binds g h
  ends : ∀ g, ¬ x.Ends g
  installs : ∀ g f, ¬ x.Installs g f
  clears : ∀ g, ¬ x.Clears g

theorem bound_idle {x : Step ω} (hx : x.Idle) (past later : List (Step ω)) (g : UInt16)
    (h : GroupHandle) : Bound (past ++ x :: later) g h ↔ Bound (past ++ later) g h := by
  induction later using List.reverseRecOn with
  | nil =>
      rw [List.append_nil, Bound, Bound, since_snoc]
      constructor
      · rintro (hbinds | ⟨hbound, -⟩)
        · exact absurd hbinds (hx.binds g h)
        · exact hbound
      · intro hbound
        exact Or.inr ⟨hbound, hx.ends g⟩
  | append_singleton later y ih =>
      -- the newest step decides on both sides alike
      rw [← List.cons_append, ← List.append_assoc, ← List.append_assoc, Bound, Bound, since_snoc,
        since_snoc]
      exact or_congr Iff.rfl (and_congr ih Iff.rfl)

/-- **A step that does nothing to subscriptions may be left out of the past.** -/
theorem subscribed_idle {x : Step ω} (hx : x.Idle) (past later : List (Step ω)) (g : UInt16)
    (h : GroupHandle) (f : Handler ω) :
    Subscribed (past ++ x :: later) g h f ↔ Subscribed (past ++ later) g h f := by
  induction later using List.reverseRecOn with
  | nil =>
      rw [List.append_nil, subscribed_snoc]
      constructor
      · rintro (⟨hbinds, -⟩ | ⟨-, -, hinstalls⟩ | ⟨hsubscribed, -⟩)
        · exact absurd hbinds (hx.binds g h)
        · exact absurd hinstalls (hx.installs g f)
        · exact hsubscribed
      · intro hsubscribed
        refine Or.inr (Or.inr ⟨hsubscribed, hx.ends g, ?_⟩)
        rintro (hclears | ⟨f', hinstalls⟩)
        · exact hx.clears g hclears
        · exact hx.installs g f' hinstalls
  | append_singleton later y ih =>
      rw [← List.cons_append, ← List.append_assoc, ← List.append_assoc, subscribed_snoc,
        subscribed_snoc]
      exact or_congr Iff.rfl
        (or_congr (and_congr (bound_idle hx past later g h) Iff.rfl) (and_congr ih Iff.rfl))

namespace Session

variable {τ : Type} [Transport τ]

/-! ## The invariant -/

/-- The registry holds what the past tells. -/
structure Tracks (s : Session τ ω) (past : List (Step ω)) : Prop where
  bound : ∀ g h, (∃ handler, s.registry.find? g = some { handle := h, handler }) ↔ Bound past g h
  subscribed : ∀ g h f,
    s.registry.find? g = some { handle := h, handler := some f } ↔ Subscribed past g h f

namespace Tracks

omit [Transport τ] in
theorem start (numbers : SessionNumbers) (t : τ) (w : ω) :
    Tracks (Session.start numbers t w).1 [] := by
  have hfind : ∀ g, (Session.start numbers t w).1.registry.find? g = none := Registry.find?_new _
  constructor
  · intro g h
    rw [hfind]
    constructor
    · rintro ⟨handler, hentry⟩
      cases hentry
    · intro hbound
      exact absurd hbound since_nil
  · intro g h f
    rw [hfind]
    constructor
    · intro hentry
      cases hentry
    · rintro ⟨before, bind, after, hpast, -⟩
      cases before <;> cases hpast

/-- **Every call keeps the registry to what the past tells.** -/
theorem step {s : Session τ ω} {past : List (Step ω)} (hs : Tracks s past) (a : Action ω) :
    Tracks (s.perform a).state (past ++ [s.step a]) := by
  have hallowed : (s.changeOf a).Allowed s.registry := (s.effect_recorded a).allowed
  constructor
  · intro g h
    rw [s.find?_perform a g, Bound, since_snoc, binds_step_iff, ends_step_iff, ← Bound,
      ← hs.bound g h]
    exact Change.exists_entry_iff hallowed
  · intro g h f
    rw [s.find?_perform a g, subscribed_snoc, binds_step_iff, ends_step_iff, installs_step_iff,
      clears_step_iff, ← hs.bound g h, ← hs.subscribed g h f]
    simp only [installs_step_iff]
    exact Change.entry_eq_some_iff hallowed

end Tracks

theorem tracks_performAll (numbers : SessionNumbers) (t : τ) (w : ω) (actions : List (Action ω)) :
    let start := (Session.start numbers t w).1
    Tracks (start.performAll actions) (start.history actions) := by
  intro start
  induction actions using List.reverseRecOn with
  | nil => exact .start numbers t w
  | append_singleton before a ih =>
      rw [performAll_snoc, history_snoc]
      exact ih.step a

/-- **Whoever is called is subscribed**, as the past tells. -/
theorem subscribed_of_mem_callsOf (s : Session τ ω) {past : List (Step ω)} (hs : s.Tracks past)
    {a : Action ω} {c : HandlerCall ω} (hc : c ∈ s.callsOf a) :
    Subscribed past c.header.group c.handle c.handler :=
  (hs.subscribed _ _ _).mp (find?_of_mem_callsOf hc)

/-- A group is bound under a handle of its own. -/
theorem group_of_subscribed (numbers : SessionNumbers) (t : τ) (w : ω)
    (actions : List (Action ω)) {g : UInt16} {h : GroupHandle} {f : Handler ω}
    (hs : Subscribed ((Session.start numbers t w).1.history actions) g h f) : h.group = g := by
  have hentry := ((tracks_performAll numbers t w actions).subscribed g h f).mpr hs
  rw [← registry_performAll_recorded] at hentry
  have hhandle : h = ⟨_, g⟩ := (mirrors_performAll numbers t w actions).handle g _ hentry
  rw [hhandle]

/-! ## Declined commands -/

theorem idle_of_error {s : Session τ ω} {a : Action ω} {e : SessionError}
    (h : (s.perform a).result = .error e) : (s.step a).Idle := by
  have hnone : s.changeOf a = .none := by
    rw [changeOf, h, a.change_error]
  constructor
  case binds =>
    intro g h'
    rw [binds_step_iff, hnone]
    rintro ⟨⟨f, hf⟩, -⟩
    cases hf
  case ends =>
    intro g
    rw [ends_step_iff, hnone]
    intro hended
    cases hended
  case installs =>
    intro g f
    rw [installs_step_iff, hnone]
    rintro (hbound | hhanded)
    · cases hbound
    · cases hhanded
  case clears =>
    intro g
    rw [clears_step_iff, hnone]
    intro hhanded
    cases hhanded

theorem callsOf_handlePacket_withTransport (s : Session τ ω) (t : τ) (bytes : Bytes) :
    (s.withTransport t).callsOf (.handlePacket bytes) = s.callsOf (.handlePacket bytes) := by
  have hdeliver := deliver_withTransport (Message.split bytes) s.watched t
  exact congrArg (fun o => o.state.world.calls) hdeliver

end Session

/-- **Handlers are called as the past tells**, in every run of a session, whatever the transport
answers: each call goes to the handler that is subscribed to the record's group, with the handle
of the group, and a subscribed handler gets its record. A declined unbind changes nothing about
what is delivered later. -/
theorem calls_follow_subscriptions {τ : Type} [Transport τ] (numbers : SessionNumbers) (t : τ)
    (w : ω) (actions : List (Action ω)) :
    let start := (Session.start numbers t w).1
    let s := start.performAll actions
    let past := start.history actions
    (∀ (before after : List (Step ω)) (x : Step ω), past = before ++ x :: after → ∀ c ∈ x.calls,
        c.handle.group = c.header.group ∧ Subscribed before c.header.group c.handle c.handler) ∧
      (∀ (before after : List (Step ω)) (x : Step ω) (g : UInt16), past = before ++ x :: after →
        (∀ h, ¬ Bound before g h) → ∀ c ∈ x.calls, c.header.group ≠ g) ∧
      (∀ (bytes attrs : Bytes) (m : Message) (header : GroupHeader) (h : GroupHandle)
        (f : Handler ω) (record : LogRecord), Message.parse bytes = .ok m →
          m.header.kind = recordKind → m.group = .ok (header, attrs) →
            LogRecord.parse attrs = .ok record → Subscribed past header.group h f →
              s.callsOf (.handleMessage bytes) = [{ handler := f, handle := h, header, record }]) ∧
      ∀ (h : GroupHandle) (e : SessionError), (s.perform (.unbindGroup h)).result = .error e →
        let declined := (s.perform (.unbindGroup h)).state
        (∀ bytes, declined.handleMessage bytes =
              (s.handleMessage bytes).within (·.withTransport declined.transport) ∧
            declined.handlePacket bytes =
              (s.handlePacket bytes).within (·.withTransport declined.transport) ∧
            declined.callsOf (.handlePacket bytes) = s.callsOf (.handlePacket bytes)) ∧
          ∀ (later : List (Step ω)) (g : UInt16) (h' : GroupHandle) (f : Handler ω),
            Subscribed (past ++ s.step (.unbindGroup h) :: later) g h' f ↔
              Subscribed (past ++ later) g h' f := by
  intro start s past
  have htracks : s.Tracks past := Session.tracks_performAll numbers t w actions
  refine ⟨?_, ?_, ?_, fun h e herr => ⟨?_, ?_⟩⟩
  · intro before after x hpast c hc
    obtain ⟨done, a, rfl, rfl⟩ := Session.exists_of_history_eq hpast
    have hsubscribed := (start.performAll done).subscribed_of_mem_callsOf
      (Session.tracks_performAll numbers t w done) hc
    exact ⟨Session.group_of_subscribed numbers t w done hsubscribed, hsubscribed⟩
  · intro before after x g hpast hnone c hc hgroup
    obtain ⟨done, a, rfl, rfl⟩ := Session.exists_of_history_eq hpast
    have hsubscribed := (start.performAll done).subscribed_of_mem_callsOf
      (Session.tracks_performAll numbers t w done) hc
    rw [hgroup] at hsubscribed
    exact hnone c.handle hsubscribed.bound
  · intro bytes attrs m header h f record hparse hkind hgroup hrecord hsubscribed
    have hentry := (htracks.subscribed _ _ _).mpr hsubscribed
    rw [s.callsOf_handleMessage hparse hkind, Session.callOf]
    simp only [hgroup, hentry, hrecord]
    rfl
  · intro bytes
    have hstate : (s.perform (.unbindGroup h)).state =
        s.withTransport (s.perform (.unbindGroup h)).state.transport :=
      s.state_of_failed rfl herr
    rw [hstate]
    exact ⟨Session.handleMessage_withTransport bytes s _, Session.deliver_withTransport _ s _,
      s.callsOf_handlePacket_withTransport _ bytes⟩
  · intro later g h' f
    exact subscribed_idle (Session.idle_of_error herr) past later g h' f

end PacketLog
