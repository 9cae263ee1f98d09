import PacketLog.Group.Config
import PacketLog.Json.Decode

set_option autoImplicit false

/-! # Group configurations as text

A group configuration is read from a JSON text. A field that is missing or null is not
set. -/

namespace PacketLog

/-- A field that may be null. -/
def Decoder.Field.optional {ρ α : Type} (name : String) (value : Decoder α)
    (set : Option α → ρ → ρ) : Decoder.Field ρ :=
  { name, value := set <$> Decoder.orNull value }

/-- A mode by its name. -/
def CopyMode.decoder : Decoder CopyMode :=
  Decoder.oneOf ([.nothing, .metadata, .packet].map fun m => (m.name, m))

/-- What the kernel adds to each record, each a switch. -/
def LogFlags.decoder : Decoder LogFlags :=
  Decoder.record "LogFlags" [
    { name := "seq", value := do let b ← Decoder.boolean; return fun f => { f with seq := b } },
    { name := "seq_global"
      value := do let b ← Decoder.boolean; return fun f => { f with seqGlobal := b } },
    { name := "conntrack"
      value := do let b ← Decoder.boolean; return fun f => { f with conntrack := b } }] {}

namespace GroupConfig

/-- The fields of a configuration, in order. -/
def fields : List (Decoder.Field GroupConfig) := [
  .optional "copy_mode" CopyMode.decoder fun v c => { c with copyMode := v },
  .optional "copy_range" Decoder.uint32 fun v c => { c with copyRange := v },
  .optional "timeout" Decoder.uint32 fun v c => { c with timeout := v },
  .optional "queue_threshold" Decoder.uint32 fun v c => { c with queueThreshold := v },
  .optional "buffer_size" Decoder.uint32 fun v c => { c with bufferSize := v },
  .optional "flags" LogFlags.decoder fun v c => { c with flags := v }]

/-- Reads a configuration from a JSON text. -/
def ofText (bytes : Bytes) : Except JsonError GroupConfig :=
  (Decoder.record "GroupConfig" fields {}).readAll bytes

end GroupConfig

end PacketLog
