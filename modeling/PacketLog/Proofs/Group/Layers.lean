import Mathlib
import PacketLog.Group.Config

set_option autoImplicit false

/-! # Layers of configurations

Configurations are put one on top of the other, and what a later one sets overrides the earlier ones
(`GroupConfig.layered`). Each field is resolved by itself: it has the value that the last layer which
sets it gives to it (`GroupConfig.layered_eq_some_iff`). Since merging is associative and has an
identity, it does not matter how the layers are grouped (`GroupConfig.Grouping.resolve_eq_layered`).
The commands are made of what all layers come to (`layers_resolve_field_by_field`). -/

namespace PacketLog

/-- Different additions have different bits. -/
theorem LogFlags.bits_injective : Function.Injective bits := by
  rintro ⟨seq, seqGlobal, conntrack⟩ ⟨seq', seqGlobal', conntrack'⟩
  revert seq seqGlobal conntrack seq' seqGlobal' conntrack'
  decide

namespace GroupConfig

/-! ## Merging -/

@[simp] theorem empty_merge (c : GroupConfig) : merge {} c = c := by
  simp [merge]

@[simp] theorem merge_empty (c : GroupConfig) : c.merge {} = c := by
  simp [merge]

theorem merge_assoc (a b c : GroupConfig) : (a.merge b).merge c = a.merge (b.merge c) := by
  simp [merge, Option.or_assoc]

/-- What some layers come to, each put on top of those before it. -/
def layered (layers : List GroupConfig) : GroupConfig := layers.foldl merge {}

theorem layered_snoc (layers : List GroupConfig) (c : GroupConfig) :
    layered (layers ++ [c]) = (layered layers).merge c := by
  simp [layered]

/-- Layers can be put on top of others as a whole. -/
theorem layered_append (lower upper : List GroupConfig) :
    layered (lower ++ upper) = (layered lower).merge (layered upper) := by
  induction upper using List.reverseRecOn with
  | nil => simp [layered]
  | append_singleton upper c ih =>
      rw [← List.append_assoc, layered_snoc, layered_snoc, ih, merge_assoc]

/-- A way to group layers before they are merged, with bare ones anywhere. -/
inductive Grouping where
  | bare
  | layer (c : GroupConfig)
  | merged (lower upper : Grouping)

namespace Grouping

/-- The layers from the lowest to the highest. -/
def layers : Grouping → List GroupConfig
  | bare => []
  | layer c => [c]
  | merged lower upper => lower.layers ++ upper.layers

/-- What the layers come to if they are merged as they are grouped. -/
def resolve : Grouping → GroupConfig
  | bare => {}
  | layer c => c
  | merged lower upper => lower.resolve.merge upper.resolve

/-- **It does not matter how layers are grouped.** -/
theorem resolve_eq_layered (g : Grouping) : g.resolve = layered g.layers := by
  induction g with
  | bare => rfl
  | layer c => exact (empty_merge c).symm
  | merged lower upper hlower hupper =>
      rw [resolve, layers, layered_append, hlower, hupper]

end Grouping

/-! ## One field -/

section Field

variable {α : Type} {field : GroupConfig → Option α} {layers : List GroupConfig}

/-- **The last layer that sets a field** sets it to `v`. -/
def LastSets (field : GroupConfig → Option α) (layers : List GroupConfig) (v : α) : Prop :=
  ∃ before c later, layers = before ++ c :: later ∧ field c = some v ∧
    ∀ d ∈ later, field d = none

/-- **What a field comes to** if nobody has to set it. -/
def ComesTo (field : GroupConfig → Option α) (layers : List GroupConfig) (default v : α) : Prop :=
  LastSets field layers v ∨ (∀ c ∈ layers, field c = none) ∧ v = default

/-- A field that is overridden by what is put on top of it, whatever the other fields are. -/
structure Overridden (field : GroupConfig → Option α) : Prop where
  empty : field {} = none
  merge : ∀ c other, field (c.merge other) = (field other).or (field c)

theorem lastSets_snoc {c : GroupConfig} {v : α} :
    LastSets field (layers ++ [c]) v ↔
      field c = some v ∨ field c = none ∧ LastSets field layers v := by
  constructor
  · rintro ⟨before, d, later, hlayers, hd, hlater⟩
    rcases List.eq_nil_or_concat' later with rfl | ⟨later, e, rfl⟩
    · obtain ⟨-, hcons⟩ := List.append_inj' hlayers rfl
      cases hcons
      exact Or.inl hd
    · have hlayers' : layers ++ [c] = (before ++ d :: later) ++ [e] := by
        rw [hlayers]
        simp
      obtain ⟨hinit, hlast⟩ := List.append_inj' hlayers' rfl
      cases hlast
      refine Or.inr ⟨hlater c (by simp), before, d, later, hinit, hd, ?_⟩
      intro e he
      exact hlater e (List.mem_append_left _ he)
  · rintro (hc | ⟨hc, before, d, later, rfl, hd, hlater⟩)
    · exact ⟨layers, c, [], rfl, hc, List.forall_mem_nil _⟩
    · refine ⟨before, d, later ++ [c], by simp, hd, ?_⟩
      intro e he
      rcases List.mem_append.mp he with he | he
      · exact hlater e he
      · rw [List.mem_singleton.mp he]
        exact hc

/-- **A field comes from the last layer that sets it.** -/
theorem layered_eq_some_iff (h : Overridden field) {v : α} :
    field (layered layers) = some v ↔ LastSets field layers v := by
  induction layers using List.reverseRecOn with
  | nil =>
      have hnone : field (layered []) = none := h.empty
      simp [hnone, LastSets]
  | append_singleton layers c ih =>
      rw [layered_snoc, h.merge, Option.or_eq_some_iff, ih, lastSets_snoc]

/-- There is such a layer if and only if one sets the field at all. -/
theorem exists_lastSets_iff (field : GroupConfig → Option α) (layers : List GroupConfig) :
    (∃ v, LastSets field layers v) ↔ ∃ c ∈ layers, (field c).isSome := by
  induction layers using List.reverseRecOn with
  | nil => simp [LastSets]
  | append_singleton layers c ih =>
      have hc : (∃ v, field c = some v) ↔ (field c).isSome = true := Option.isSome_iff_exists.symm
      simp only [lastSets_snoc, exists_or, exists_and_left, ih, hc, List.mem_append,
        List.mem_singleton, or_and_right, exists_eq_left]
      constructor
      · rintro (hc | ⟨-, hlayers⟩)
        · exact Or.inr hc
        · exact Or.inl hlayers
      · rintro (hlayers | hc)
        · cases hfield : field c with
          | none => exact Or.inr ⟨rfl, hlayers⟩
          | some v => exact Or.inl rfl
        · exact Or.inl hc

theorem isSome_layered_iff (h : Overridden field) :
    (field (layered layers)).isSome ↔ ∃ c ∈ layers, (field c).isSome := by
  rw [Option.isSome_iff_exists]
  simp only [layered_eq_some_iff h, exists_lastSets_iff]

theorem layered_eq_none_iff (h : Overridden field) :
    field (layered layers) = none ↔ ∀ c ∈ layers, field c = none := by
  have hset : ¬ (field (layered layers)).isSome ↔ ¬ ∃ c ∈ layers, (field c).isSome :=
    not_congr (isSome_layered_iff h)
  simpa using hset

/-- A field with a default. -/
theorem eq_getD_iff_comesTo (h : Overridden field) {default v : α} :
    v = (field (layered layers)).getD default ↔ ComesTo field layers default v := by
  rw [ComesTo, ← layered_eq_some_iff h, ← layered_eq_none_iff h]
  cases field (layered layers) with
  | none => simp
  | some w => simp [eq_comm]

end Field

theorem overridden_copyMode : Overridden copyMode := ⟨rfl, fun _ _ => rfl⟩

theorem overridden_copyRange : Overridden copyRange := ⟨rfl, fun _ _ => rfl⟩

theorem overridden_timeout : Overridden timeout := ⟨rfl, fun _ _ => rfl⟩

theorem overridden_queueThreshold : Overridden queueThreshold := ⟨rfl, fun _ _ => rfl⟩

theorem overridden_bufferSize : Overridden bufferSize := ⟨rfl, fun _ _ => rfl⟩

theorem overridden_flags : Overridden flags := ⟨rfl, fun _ _ => rfl⟩

/-! ## Commands -/

/-- A command that is there or not is one of its name, or none. -/
theorem map_name_sublist {o : Option Command} {name : String} (h : ∀ c ∈ o, c.name = name) :
    (o.toList.map Command.name).Sublist [name] := by
  cases o with
  | none => simp
  | some c => simp [h c rfl]

/-- **There is at most one command of each kind**, in a fixed order. -/
theorem map_name_commands (c : GroupConfig) :
    (c.commands.map Command.name).Sublist
      ["mode", "buffer-size", "timeout", "queue-threshold", "flags"] := by
  have hmode : (c.modeCommand.toList.map Command.name).Sublist ["mode"] := by
    refine map_name_sublist fun command h => ?_
    rw [modeCommand] at h
    split at h <;> cases h
    rfl
  have hfield : ∀ {α : Type} (o : Option α) (f : α → Command) (name : String),
      (∀ v, (f v).name = name) → ((o.map f).toList.map Command.name).Sublist [name] := by
    intro α o f name hname
    refine map_name_sublist fun command h => ?_
    obtain ⟨v, -, rfl⟩ := Option.mem_map.mp h
    exact hname v
  simp only [commands, List.map_append]
  exact (((hmode.append (hfield c.bufferSize .bufferSize "buffer-size" fun _ => rfl)).append
    (hfield c.timeout .timeout "timeout" fun _ => rfl)).append
    (hfield c.queueThreshold .queueThreshold "queue-threshold" fun _ => rfl)).append
    (hfield c.flags (fun f => .flags f.bits) "flags" fun _ => rfl)

variable {c : GroupConfig}

theorem mode_mem_commands_iff {mode : CopyMode} {range : UInt32} :
    .mode mode range ∈ c.commands ↔ (c.copyMode.isSome ∨ c.copyRange.isSome) ∧
      mode = c.copyMode.getD .packet ∧ range = c.copyRange.getD 0xffff := by
  have hmem : .mode mode range ∈ c.commands ↔ c.modeCommand = some (.mode mode range) := by
    simp [commands]
  rw [hmem, modeCommand]
  split
  · rename_i hset
    rw [Bool.or_eq_true] at hset
    constructor
    · rintro ⟨⟩
      exact ⟨hset, rfl, rfl⟩
    · rintro ⟨-, rfl, rfl⟩
      rfl
  · rename_i hset
    rw [Bool.or_eq_true] at hset
    exact iff_of_false nofun fun h => hset h.1

theorem bufferSize_mem_commands_iff {n : UInt32} :
    .bufferSize n ∈ c.commands ↔ c.bufferSize = some n := by
  simp [commands, modeCommand]

theorem timeout_mem_commands_iff {n : UInt32} : .timeout n ∈ c.commands ↔ c.timeout = some n := by
  simp [commands, modeCommand]

theorem queueThreshold_mem_commands_iff {n : UInt32} :
    .queueThreshold n ∈ c.commands ↔ c.queueThreshold = some n := by
  simp [commands, modeCommand]

/-- Only the bits of the additions that are set are in a command. -/
theorem flags_mem_commands_iff {bits : UInt16} :
    .flags bits ∈ c.commands ↔ ∃ f, c.flags = some f ∧ f.bits = bits := by
  simp [commands, modeCommand]

/-- **A field is told by a command**, which carries what the field is set to. -/
structure Tells {α β : Type} (field : GroupConfig → Option α) (carried : α → β)
    (command : β → Command) (layers : List GroupConfig) (commands : List Command) : Prop where
  /-- There is a command of this kind, whatever it carries, if and only if a layer sets the field. -/
  occurs : (∃ b, command b ∈ commands) ↔ ∃ c ∈ layers, (field c).isSome
  /-- It carries what the last such layer sets the field to. -/
  value : ∀ b, command b ∈ commands ↔ ∃ v, LastSets field layers v ∧ carried v = b
  /-- What it carries tells the field from any other value of it. -/
  told : ∀ v, command (carried v) ∈ commands ↔ LastSets field layers v

theorem tells_of_mem_iff {α β : Type} {field : GroupConfig → Option α} {carried : α → β}
    {command : β → Command} (h : Overridden field) (hcarried : Function.Injective carried)
    (hmem : ∀ {c : GroupConfig} {b}, command b ∈ c.commands ↔ ∃ v, field c = some v ∧ carried v = b)
    (layers : List GroupConfig) : Tells field carried command layers (layered layers).commands := by
  have hvalue : ∀ b, command b ∈ (layered layers).commands ↔
      ∃ v, LastSets field layers v ∧ carried v = b := by
    intro b
    simp only [hmem, layered_eq_some_iff h]
  constructor
  case occurs =>
    rw [← exists_lastSets_iff]
    constructor
    · rintro ⟨b, hb⟩
      obtain ⟨v, hv, -⟩ := (hvalue b).mp hb
      exact ⟨v, hv⟩
    · rintro ⟨v, hv⟩
      exact ⟨carried v, (hvalue _).mpr ⟨v, hv, rfl⟩⟩
  case value => exact hvalue
  case told =>
    intro v
    rw [hvalue]
    simp only [hcarried.eq_iff, exists_eq_right]

/-- A number is carried as it is. -/
theorem tells_of_number {field : GroupConfig → Option UInt32} {command : UInt32 → Command}
    (h : Overridden field)
    (hmem : ∀ {c : GroupConfig} {n}, command n ∈ c.commands ↔ field c = some n)
    (layers : List GroupConfig) : Tells field id command layers (layered layers).commands := by
  refine tells_of_mem_iff h Function.injective_id ?_ layers
  intro c n
  rw [hmem]
  simp only [id, exists_eq_right]

end GroupConfig

open GroupConfig in
/-- **Layers are resolved field by field.** Whatever configurations are put one on top of the other,
the commands of the result are at most one of each kind, in a fixed order. There is one for size of
batches, timeout, queue threshold or additions if and only if a layer sets this, and it carries what
the last such layer gives. There is a mode if and only if a layer sets the mode or the range; both
come from the last layer that sets just this one, and from the default if there is none. Merging is
associative, and the bare configuration is its identity on both sides, so the commands do not depend
on how the layers are grouped. -/
theorem layers_resolve_field_by_field :
    (∀ layers : List GroupConfig,
      let commands := (layered layers).commands
      (commands.map Command.name).Sublist
        ["mode", "buffer-size", "timeout", "queue-threshold", "flags"] ∧
      Tells bufferSize id .bufferSize layers commands ∧
      Tells timeout id .timeout layers commands ∧
      Tells queueThreshold id .queueThreshold layers commands ∧
      Tells flags LogFlags.bits .flags layers commands ∧
      ((∃ mode range, .mode mode range ∈ commands) ↔
        ∃ c ∈ layers, c.copyMode.isSome ∨ c.copyRange.isSome) ∧
      ∀ mode range, .mode mode range ∈ commands ↔
        (∃ c ∈ layers, c.copyMode.isSome ∨ c.copyRange.isSome) ∧
          ComesTo copyMode layers .packet mode ∧ ComesTo copyRange layers 0xffff range) ∧
    (∀ a b c : GroupConfig, (a.merge b).merge c = a.merge (b.merge c)) ∧
    (∀ c : GroupConfig, merge {} c = c ∧ c.merge {} = c) ∧
    ∀ g : Grouping, g.resolve.commands = (layered g.layers).commands := by
  refine ⟨fun layers => ?_, merge_assoc, fun c => ⟨empty_merge c, merge_empty c⟩, fun g => ?_⟩
  · intro commands
    have hset : (layered layers).copyMode.isSome ∨ (layered layers).copyRange.isSome ↔
        ∃ c ∈ layers, c.copyMode.isSome ∨ c.copyRange.isSome := by
      simp only [isSome_layered_iff overridden_copyMode, isSome_layered_iff overridden_copyRange,
        and_or_left, exists_or]
    refine ⟨map_name_commands _, tells_of_number overridden_bufferSize bufferSize_mem_commands_iff _,
      tells_of_number overridden_timeout timeout_mem_commands_iff _,
      tells_of_number overridden_queueThreshold queueThreshold_mem_commands_iff _,
      tells_of_mem_iff overridden_flags LogFlags.bits_injective flags_mem_commands_iff _, ?_,
      fun mode range => ?_⟩
    · simp only [commands, mode_mem_commands_iff, hset, exists_and_left, exists_eq, and_true]
    · rw [mode_mem_commands_iff, hset, eq_getD_iff_comesTo overridden_copyMode,
        eq_getD_iff_comesTo overridden_copyRange]
  · rw [g.resolve_eq_layered]

/-- A file sets the range and the timeout, and the command line sets the mode and another timeout:
range and mode go into one command. -/
example : (GroupConfig.layered [{ copyRange := some 128, timeout := some 10 },
    { copyMode := some .metadata, timeout := some 50 }]).commands =
      [.mode .metadata 128, .timeout 50] := by decide

end PacketLog
