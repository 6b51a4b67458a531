/-!
Settings of the script host.

Settings come in layers: a layer gives some of them and leaves the others to what lies below it.
-/

set_option autoImplicit false

namespace StationScript

structure ScriptConfig where
  /-- Starts every message written on behalf of scripts. -/
  logPrefix : String := "LuaScript"
  /-- A host message that holds this text refreshes every device; empty switches this off. -/
  refreshMarker : String := "Update LuaScript"
  /-- The least number of milliseconds between two refreshes. -/
  refreshDebounce : UInt64 := 1000
  /-- Whether loading a script warns about connections that refuse cycles. -/
  warnAcyclic : Bool := true
  deriving Repr, DecidableEq, Inhabited

/-- The least number of nanoseconds between two refreshes. -/
def ScriptConfig.refreshWindow (config : ScriptConfig) : Nat :=
  config.refreshDebounce.toNat * 1000000

/-- Some of the settings. -/
structure ConfigLayer where
  logPrefix : Option String := none
  refreshMarker : Option String := none
  refreshDebounce : Option UInt64 := none
  warnAcyclic : Option Bool := none
  deriving Repr, DecidableEq, Inhabited

namespace ConfigLayer

/-- The settings of the layer, and of the configuration below where the layer gives none. -/
def applyTo (layer : ConfigLayer) (config : ScriptConfig) : ScriptConfig where
  logPrefix := layer.logPrefix.getD config.logPrefix
  refreshMarker := layer.refreshMarker.getD config.refreshMarker
  refreshDebounce := layer.refreshDebounce.getD config.refreshDebounce
  warnAcyclic := layer.warnAcyclic.getD config.warnAcyclic

/-- The layer that gives every setting. -/
def full (config : ScriptConfig) : ConfigLayer where
  logPrefix := some config.logPrefix
  refreshMarker := some config.refreshMarker
  refreshDebounce := some config.refreshDebounce
  warnAcyclic := some config.warnAcyclic

@[simp] theorem applyTo_empty (config : ScriptConfig) :
    ({} : ConfigLayer).applyTo config = config := rfl

@[simp] theorem applyTo_full (config below : ScriptConfig) :
    (full config).applyTo below = config := rfl

end ConfigLayer

end StationScript
