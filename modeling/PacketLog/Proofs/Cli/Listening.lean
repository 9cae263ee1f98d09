import Mathlib
import PacketLog.Proofs.Cli.Printed
import PacketLog.Proofs.Outcome
import PacketLog.Proofs.Session.Handles
import PacketLog.Proofs.Session.History

set_option autoImplicit false

/-! # What `listen` sets up

Before it receives, `listen` takes over the family if it is asked to, and binds and configures its
groups (`Listen.setup`). If that succeeds, the printer is the handler of these groups and of no
other, and nothing was printed yet (`Listen.prepared_setup`). -/

namespace PacketLog

namespace Cli.Listen

/-- Everything that comes before the first receive: the family is taken over if that is asked for,
and the groups are bound. -/
def setup (p : Printing) (options : ListenOptions) (config : GroupConfig) (s : Live) :
    Outcome Live (Except Failure Unit) :=
  (if options.bindFamily then rebind options.family s else { result := .ok (), state := s }).andThen
    fun _ s => bindAll (printer p options.count) config options.groups s

theorem onSession_eq (p : Printing) (options : ListenOptions) (config : GroupConfig) (s : Live) :
    onSession p options config s =
      (setup p options config s).andThen fun _ s =>
        (receive s).andThen fun _ s =>
          { result := .ok (), state := s
            events := [.info "stopped" [("printed", .number s.world)]] } :=
  (Outcome.andThen_assoc _ _ _).symm

/-! ## Nothing is printed -/

theorem silent_rebind (family : UInt8) (s : Live) : (rebind family s).Silent := by
  refine Outcome.Silent.after (Socket.silent.command _ _) ?_
  rw [Event.prints_append]
  refine List.append_eq_nil_iff.mpr ⟨Socket.silent.command _ s, ?_⟩
  split <;> rfl

theorem silent_bind (handler : Handler Nat) (config : GroupConfig) (group : UInt16) (s : Live) :
    (bind handler config group s).Silent := by
  refine Outcome.Silent.andThen (Socket.silent.bindGroupWith group handler s) fun handle t => ?_
  exact Outcome.Silent.andThen (Socket.silent.applyCommands handle _ t) fun _ _ => rfl

theorem silent_bindAll (handler : Handler Nat) (config : GroupConfig) (groups : List UInt16)
    (s : Live) : (bindAll handler config groups s).Silent := by
  induction groups generalizing s with
  | nil => rfl
  | cons group rest ih => exact (silent_bind handler config group s).andThen fun _ t => ih t

theorem silent_setup (p : Printing) (options : ListenOptions) (config : GroupConfig) (s : Live) :
    (setup p options config s).Silent := by
  refine Outcome.Silent.andThen ?_ fun _ t => silent_bindAll _ config _ t
  split
  · exact silent_rebind _ s
  · rfl

/-! ## The printer is installed -/

/-- From `s` to `t` the groups got the handler. The others and the number of printed records are
as they were. -/
structure Installs (handler : Handler Nat) (groups : List UInt16) (s t : Live) : Prop where
  handlers : ∀ g, (t.registry.find? g).bind GroupEntry.handler =
    if g ∈ groups then some handler else (s.registry.find? g).bind GroupEntry.handler
  world : t.world = s.world

theorem Installs.refl (handler : Handler Nat) (s : Live) : Installs handler [] s s where
  handlers _ := (if_neg List.not_mem_nil).symm
  world := rfl

theorem Installs.trans {handler : Handler Nat} {groups later : List UInt16} {s t u : Live}
    (h : Installs handler groups s t) (h' : Installs handler later t u) :
    Installs handler (groups ++ later) s u where
  handlers g := by
    rw [h'.handlers, h.handlers]
    by_cases hlater : g ∈ later
    · rw [if_pos hlater, if_pos (List.mem_append_right groups hlater)]
    · by_cases hgroups : g ∈ groups
      · rw [if_neg hlater, if_pos hgroups, if_pos (List.mem_append_left later hgroups)]
      · rw [if_neg hlater, if_neg hgroups, if_neg (by simp [hgroups, hlater])]
  world := h'.world.trans h.world

/-- A command that leaves the registry alone installs nothing. -/
theorem installs_of_none {a : Action Nat} (ha : a.isCommand = true)
    (hchange : ∀ r, a.change r = .none) (handler : Handler Nat) (s : Live) :
    Installs handler [] s (s.perform a).state where
  handlers g := by
    rw [s.find?_perform, Session.changeOf, hchange, if_neg List.not_mem_nil]
    rfl
  world := s.world_perform ha

theorem installs_bindGroupWith {handler : Handler Nat} {g : UInt16} {s : Live} {h : GroupHandle}
    (hbound : (s.bindGroupWith g handler).result = .ok h) :
    Installs handler [g] s (s.bindGroupWith g handler).state where
  handlers g' := by
    have hchange : s.changeOf (.bindGroupWith g handler) = .bound g (some handler) := by
      rw [Session.changeOf, Session.perform, Outcome.result_mapResult, hbound]
      rfl
    have hfind := s.find?_perform (.bindGroupWith g handler) g'
    rw [hchange] at hfind
    refine (congrArg (·.bind GroupEntry.handler) hfind).trans ?_
    by_cases hg : g = g'
    · rw [if_pos (List.mem_singleton.mpr hg.symm), Change.entry, if_pos hg]
      rfl
    · rw [if_neg (fun hmem => hg (List.mem_singleton.mp hmem).symm), Change.entry, if_neg hg]
  world := s.world_bindGroupWith g handler

theorem installs_rebind (handler : Handler Nat) (family : UInt8) (s : Live) :
    Installs handler [] s (rebind family s).state := by
  have hunbind := installs_of_none (a := .unbindFamily family) rfl (fun _ => rfl) handler s
  have hbind := installs_of_none (a := .bindFamily family) rfl (fun _ => rfl) handler
    (s.unbindFamily family).state
  exact hunbind.trans hbind

/-- A step that succeeds is a success of what it does. -/
theorem result_of_step {α : Type} {context : String} {o : Outcome Live (Except SessionError α)}
    {a : α} (h : (step context o).result = .ok a) : o.result = .ok a := by
  rw [step, Outcome.result_mapResult] at h
  cases hresult : o.result with
  | error e =>
      rw [hresult] at h
      cases h
  | ok b =>
      rw [hresult] at h
      cases h
      rfl

theorem installs_bind {handler : Handler Nat} {config : GroupConfig} {group : UInt16} {s : Live}
    (h : (bind handler config group s).result = .ok ()) :
    Installs handler [group] s (bind handler config group s).state := by
  obtain ⟨handle, t, hbound, hconfigured, ht, hstate⟩ := Outcome.exists_of_andThen h
  obtain ⟨-, -, -, -, rfl, hstate'⟩ := Outcome.exists_of_andThen hconfigured
  have hbind : Installs handler [group] s t := ht ▸ installs_bindGroupWith (result_of_step hbound)
  have hconfig := installs_of_none (a := .applyConfig handle config) rfl (fun _ => rfl) handler t
  rw [bind, hstate, hstate']
  exact hbind.trans hconfig

theorem installs_bindAll {handler : Handler Nat} {config : GroupConfig} {groups : List UInt16}
    {s : Live} (h : (bindAll handler config groups s).result = .ok ()) :
    Installs handler groups s (bindAll handler config groups s).state := by
  induction groups generalizing s with
  | nil => exact .refl handler s
  | cons group rest ih =>
      obtain ⟨u, t, hfirst, hrest, rfl, hstate⟩ := Outcome.exists_of_andThen h
      rw [bindAll, hstate]
      exact (installs_bind hfirst).trans (ih hrest)

/-- The handler of the groups is `handler`, and no other group has one. -/
def Serves (handler : Handler Nat) (groups : List UInt16) (s : Live) : Prop :=
  ∀ g, (s.registry.find? g).bind GroupEntry.handler = if g ∈ groups then some handler else none

/-- **What is set up**: the printer serves the groups, and has printed nothing. -/
theorem serves_setup {p : Printing} {options : ListenOptions} {config : GroupConfig}
    {numbers : SessionNumbers} {socket : Socket} {world : Nat}
    (h : (setup p options config (Session.start numbers socket world).1).result = .ok ()) :
    let s := (setup p options config (Session.start numbers socket world).1).state
    Serves (printer p options.count) options.groups s ∧ s.world = world := by
  intro s
  let start : Live := (Session.start numbers socket world).1
  obtain ⟨-, -, -, hbound, rfl, hstate⟩ := Outcome.exists_of_andThen h
  let rebound : Outcome Live (Except Failure Unit) :=
    if options.bindFamily then rebind options.family start else { result := .ok (), state := start }
  have hrebound : Installs (printer p options.count) [] start rebound.state := by
    unfold rebound
    split
    · exact installs_rebind _ _ start
    · exact .refl _ start
  have hlast : s = (bindAll (printer p options.count) config options.groups rebound.state).state :=
    hstate
  have hinstalls : Installs (printer p options.count) options.groups start s :=
    hlast ▸ hrebound.trans (installs_bindAll hbound)
  refine ⟨fun g => ?_, hinstalls.world⟩
  have hnew : start.registry.find? g = none := Registry.find?_new _ g
  rw [hinstalls.handlers, hnew]
  rfl

end Cli.Listen

end PacketLog
