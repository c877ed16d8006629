import Findings.Config

/-!
Settings and the layers that set them. A layer says something of some settings and nothing of the
others (`Config.Layer`), and a configuration under a layer has what the layer says and keeps the
rest (`Config.of_under`). A configuration is what it has for each setting (`Config.ext_of`), so
layers that are laid over one another can be told setting by setting.
-/

namespace Findings.Config

/-! ## Settings -/

/-- The settings by name. -/
inductive Key where
  | output
  | databasePath
  | maxConnections
  | cacheEnabled
  | cacheTtl
  | logLevel
  | logJson
  deriving DecidableEq, Repr

namespace Key

/-- What a setting can be set to. -/
abbrev Value : Key → Type
  | output => OutputFormat
  | databasePath => Option String
  | maxConnections => UInt32
  | cacheEnabled | logJson => Bool
  | cacheTtl => UInt64
  | logLevel => String

/-- What a configuration has for a setting. -/
def of : (key : Key) → Config → key.Value
  | output => Config.output
  | databasePath => Config.databasePath
  | maxConnections => Config.maxConnections
  | cacheEnabled => Config.cacheEnabled
  | cacheTtl => Config.cacheTtl
  | logLevel => Config.logLevel
  | logJson => Config.logJson

end Key

/-- A configuration is known by its settings. -/
theorem ext_of {c d : Config} (same : ∀ key : Key, key.of c = key.of d) : c = d := by
  obtain ⟨output, databasePath, maxConnections, cacheEnabled, cacheTtl, logLevel, logJson⟩ := c
  cases same .output
  cases same .databasePath
  cases same .maxConnections
  cases same .cacheEnabled
  cases same .cacheTtl
  cases same .logLevel
  cases same .logJson
  rfl

/-! ## Layers -/

/-- What is said of the settings; of some nothing may be said. -/
abbrev Layer : Type := (key : Key) → Option key.Value

/-- The configuration with what a layer says of it. -/
def under (c : Config) (layer : Layer) : Config where
  output := (layer .output).getD c.output
  databasePath := (layer .databasePath).getD c.databasePath
  maxConnections := (layer .maxConnections).getD c.maxConnections
  cacheEnabled := (layer .cacheEnabled).getD c.cacheEnabled
  cacheTtl := (layer .cacheTtl).getD c.cacheTtl
  logLevel := (layer .logLevel).getD c.logLevel
  logJson := (layer .logJson).getD c.logJson

namespace Layer

/-- What is said of one setting alone. -/
def single (key : Key) (value : key.Value) : Layer := fun k =>
  if same : key = k then some (same ▸ value) else none

/-- What a layer says of some settings. -/
def restrict (layer : Layer) (keys : List Key) : Layer := fun key =>
  if key ∈ keys then layer key else none

theorem single_self (key : Key) (value : key.Value) : single key value key = some value := by
  rw [single, dif_pos rfl]

theorem single_of_ne {key k : Key} (value : key.Value) (different : key ≠ k) :
    single key value k = none := by
  rw [single, dif_neg different]

end Layer

/-- Sets one setting. -/
def set (c : Config) (key : Key) (value : key.Value) : Config := c.under (.single key value)

/-- Under a layer a setting is what the layer says of it, or else what it was. -/
theorem of_under (c : Config) (layer : Layer) (key : Key) :
    key.of (c.under layer) = (layer key).getD (key.of c) := by
  cases key <;> rfl

theorem of_under_of_none {layer : Layer} {key : Key} (unsaid : layer key = none) (c : Config) :
    key.of (c.under layer) = key.of c := by
  rw [of_under, unsaid, Option.getD_none]

theorem of_set_self (c : Config) (key : Key) (value : key.Value) :
    key.of (c.set key value) = value := by
  rw [set, of_under, Layer.single_self, Option.getD_some]

/-- Setting one key leaves the others. -/
theorem of_set_of_ne {key k : Key} (c : Config) (value : key.Value) (different : key ≠ k) :
    k.of (c.set key value) = k.of c :=
  of_under_of_none (Layer.single_of_ne value different) c

/-- A setting that is set to what it is changes nothing. -/
theorem set_of (c : Config) (key : Key) : c.set key (key.of c) = c := by
  apply ext_of
  intro k
  by_cases same : key = k
  · subst same
    exact of_set_self c key _
  · exact of_set_of_ne c _ same

theorem under_restrict_nil (c : Config) (layer : Layer) : c.under (layer.restrict []) = c :=
  ext_of fun _ => of_under_of_none (if_neg List.not_mem_nil) c

/-- What a layer says of several settings can be set one setting after the other. -/
theorem under_restrict_cons (c : Config) (layer : Layer) (key : Key) (rest : List Key) :
    c.under (layer.restrict (key :: rest)) =
      (c.set key ((layer key).getD (key.of c))).under (layer.restrict rest) := by
  apply ext_of
  intro k
  rw [of_under, of_under]
  unfold Layer.restrict
  by_cases same : key = k
  · subst same
    rw [if_pos List.mem_cons_self, of_set_self]
    -- A setting that comes again is given the value it has by then.
    split
    · cases layer key <;> rfl
    · rfl
  · have member : k ∈ key :: rest ↔ k ∈ rest := by simp [Ne.symm same]
    simp only [member]
    rw [of_set_of_ne c _ same]

/-- Of two layers the higher one decides. -/
theorem of_under_under (c : Config) (low high : Layer) (key : Key) :
    key.of ((c.under low).under high) = ((high key).or (low key)).getD (key.of c) := by
  rw [of_under, of_under]
  cases high key <;> rfl

end Findings.Config
