import Findings.Command.Basic
import Findings.Proofs.Config.Document
import Findings.Proofs.Config.Merging
import Mathlib.Control.Monad.Basic

/-!
Which layer decides on a setting. The variables of the environment and the arguments are layers like
a document, so a configuration is the built-in one under three of them, and each setting is what the
highest of them says that says anything (`Command.configure_layers`).
-/

namespace Findings

namespace Command

open Config

/-! ## Arguments -/

/-- What the arguments say of the settings. -/
def Arguments.layer (a : Arguments) : Layer
  | .output => a.output
  | .databasePath => a.feed.map some
  | .cacheEnabled => if a.noCache then some false else none
  | .logJson => if a.json then some true else none
  | .maxConnections | .cacheTtl | .logLevel => none

/-- Arguments are applied as the highest layer. -/
theorem Arguments.apply_eq (a : Arguments) (c : Config) : a.apply c = c.under a.layer := by
  have path : a.feed.or c.databasePath = (a.feed.map some).getD c.databasePath := by
    cases a.feed <;> rfl
  have enabled : (!a.noCache && c.cacheEnabled) =
      (if a.noCache then some false else none).getD c.cacheEnabled := by
    cases a.noCache <;> rfl
  have json : (a.json || c.logJson) = (if a.json then some true else none).getD c.logJson := by
    cases a.json <;> rfl
  unfold apply
  rw [path, enabled, json]
  rfl

/-! ## All layers -/

/-- The document a run is configured by: that of the file which is asked for, or of the file in the
default place. Where no file is in that place, nothing is set. -/
inductive ConfiguredBy (s : Surroundings) (a : Arguments) : List (String × Toml) → Prop
  | asked {path text : String} {document : List (String × Toml)} (asked : a.config = some path)
    (holds : (s.contents path).text = .ok text) (spelled : Toml.ofText? text = some document) :
    ConfiguredBy s a document
  | found {path text : String} {document : List (String × Toml)} (unasked : a.config = none)
    (place : s.defaultConfig = some path) (holds : (s.contents path).text = .ok text)
    (spelled : Toml.ofText? text = some document) : ConfiguredBy s a document
  | absent {path : String} (unasked : a.config = none) (place : s.defaultConfig = some path)
    (absent : (s.contents path).isThere = false) : ConfiguredBy s a []

/-- The configuration before the environment and the arguments. -/
def load (s : Surroundings) (a : Arguments) : Except ConfigError Config :=
  match a.config with
  | some path => loadFile path (s.contents path)
  | none => Config.load s.defaultConfig s.contents

theorem loadDefault_eq_ok_iff {path : String} {contents : Contents} {c : Config} :
    loadDefault path contents = .ok c ↔
      loadFile path contents = .ok c ∨ contents.isThere = false ∧ c = {} := by
  unfold loadDefault
  split
  next there => simp [there]
  next gone =>
    have gone : contents.isThere = false := eq_false_of_ne_true gone
    have unread : loadFile path contents ≠ .ok c := by
      intro loaded
      obtain ⟨_, _, holds, _⟩ := loadFile_eq_ok_iff.mp loaded
      cases gone.symm.trans (Contents.isThere_of_text holds)
    simp [gone, unread, eq_comm]

/-- A configuration is loaded from the document that the run is configured by. -/
theorem load_eq_ok_iff {s : Surroundings} {a : Arguments} {c : Config} :
    load s a = .ok c ↔ ∃ document, ConfiguredBy s a document ∧ ofDocument document = some c := by
  unfold load
  cases asked : a.config with
  | some path =>
    dsimp only
    rw [loadFile_eq_ok_iff]
    constructor
    · rintro ⟨text, document, holds, spelled, read⟩
      exact ⟨document, .asked asked holds spelled, read⟩
    · rintro ⟨document, _ | _ | _, read⟩
      next given holds spelled =>
        cases asked.symm.trans given
        exact ⟨_, document, holds, spelled, read⟩
      next unasked _ _ _ => cases asked.symm.trans unasked
      next unasked _ _ => cases asked.symm.trans unasked
  | none =>
    dsimp only
    unfold Config.load
    cases place : s.defaultConfig with
    | none =>
      constructor
      · rintro ⟨⟩
      · rintro ⟨document, _ | _ | _, read⟩
        next given _ _ => cases asked.symm.trans given
        next somewhere _ _ => cases place.symm.trans somewhere
        next somewhere _ => cases place.symm.trans somewhere
    | some path =>
      dsimp only
      rw [loadDefault_eq_ok_iff, loadFile_eq_ok_iff]
      constructor
      · rintro (⟨text, document, holds, spelled, read⟩ | ⟨gone, rfl⟩)
        · exact ⟨document, .found asked place holds spelled, read⟩
        · exact ⟨[], .absent asked place gone, rfl⟩
      · rintro ⟨document, _ | _ | _, read⟩
        next given _ _ => cases asked.symm.trans given
        next there holds spelled =>
          cases place.symm.trans there
          exact .inl ⟨_, document, holds, spelled, read⟩
        next there gone =>
          cases place.symm.trans there
          exact .inr ⟨gone, (Option.some.inj read).symm⟩

/-- A run is configured exactly when the file and the environment are acceptable, and then each
layer is laid over those before it. -/
theorem configure_eq_ok_iff {s : Surroundings} {a : Arguments} {c : Config} :
    configure s a = .ok c ↔ ∃ document, ConfiguredBy s a document ∧ Acceptable document ∧
      AcceptableEnvironment s.environment ∧
      c = ((under {} (.ofDocument document)).under (.ofEnvironment s.environment)).under
        a.layer := by
  have stages : configure s a = ((load s a).mapError Error.config).bind fun loaded =>
      ((loaded.merge s.environment).2.mapError Error.config).bind fun _ =>
        .ok (a.apply (loaded.merge s.environment).1) := rfl
  rw [stages]
  constructor
  · intro configured
    cases loaded : load s a with
    | error e =>
      rw [loaded] at configured
      cases configured
    | ok base =>
      rw [loaded] at configured
      obtain ⟨document, file, read⟩ := load_eq_ok_iff.mp loaded
      obtain ⟨acceptable, rfl⟩ := ofDocument_eq_some_iff.mp read
      rcases merged : merge s.environment (under {} (.ofDocument document)) with ⟨d, e | _⟩
      · rw [Except.mapError, Except.bind, merged] at configured
        cases configured
      · rw [Except.mapError, Except.bind, merged] at configured
        obtain ⟨environment, rfl⟩ := merge_eq_iff.mp merged
        cases configured
        exact ⟨document, file, acceptable, environment, a.apply_eq _⟩
  · rintro ⟨document, file, acceptable, environment, rfl⟩
    have read := ofDocument_eq_some_iff.mpr ⟨acceptable, rfl⟩
    have loaded := load_eq_ok_iff.mpr ⟨document, file, read⟩
    have merged := merge_eq_iff (c := under {} (.ofDocument document)).mpr ⟨environment, rfl⟩
    rw [loaded, Except.mapError, Except.bind, merged, ← a.apply_eq]
    rfl

/-- Every setting is decided by the highest layer that says anything of it: the arguments, else the
variables of the environment, else the document of a file, else what is built in. So it is for every
acceptable file, or none, every environment whose variables can be read and all arguments, and the
run is configured then. It does not matter for a setting why the document leaves it out, for want of
a file, of the section or of the setting in it: then it is as without a document, and built in where
nothing else is said of it. No layer changes a setting it says nothing of. -/
theorem configure_layers (s : Surroundings) (a : Arguments) {document : List (String × Toml)}
    (file : ConfiguredBy s a document) (acceptable : Acceptable document)
    (environment : AcceptableEnvironment s.environment) :
    ∃ c, configure s a = .ok c ∧
      (∀ key : Key, key.of c = (((a.layer key).or (Layer.ofEnvironment s.environment key)).or
        (Layer.ofDocument document key)).getD (key.of {})) ∧
      (∀ key : Key, key.LeftOut document →
        key.of c = ((a.layer key).or (Layer.ofEnvironment s.environment key)).getD (key.of {}) ∧
        (a.layer key = none → key.word s.environment = none → key.of c = key.of {})) ∧
      ∀ (key : Key) (d : Config),
        (a.layer key = none → key.of (a.apply d) = key.of d) ∧
        (key.word s.environment = none → key.of (merge s.environment d).1 = key.of d) ∧
        (key.LeftOut document → ofDocument document = some d → key.of d = key.of {}) := by
  refine ⟨_, configure_eq_ok_iff.mpr ⟨document, file, acceptable, environment, rfl⟩, ?_, ?_, ?_⟩
  · intro key
    rw [of_under, of_under_under]
    cases a.layer key <;> rfl
  · intro key left
    rw [of_under, of_under, of_under_of_none left.unsaid]
    refine ⟨by cases a.layer key <;> rfl, fun unsaid unset => ?_⟩
    rw [unsaid, Layer.ofEnvironment, unset]
    rfl
  · intro key d
    refine ⟨fun unsaid => ?_, fun unset => ?_, fun left read => ?_⟩
    · rw [a.apply_eq, of_under_of_none unsaid]
    · exact of_merge_of_unset unset d
    · rw [(ofDocument_eq_some_iff.mp read).2, of_under_of_none left.unsaid]

/-- A file in the default place sets two settings and has an empty section, and two variables are
set. -/
def partly : Surroundings where
  contents := fun path =>
    if path = "config.toml" then
      .bytes (Utf8.bytes "[feed]\nmax_connections = 2\ncache_enabled = true\n[logging]\n")
    else .absent
  database := fun _ => .absent
  defaultConfig := some "config.toml"
  environment := fun name => [("VDS_LOG_LEVEL", "debug"), ("VDS_FEED_CACHE_TTL", "7")].lookup name
  input := []

/-- The cache is forbidden, whatever else is said of it. -/
def sparing : Arguments := { noCache := true, context := "context.json" }

/-- Each layer decides on one setting at least. -/
def mixed : Config :=
  { maxConnections := 2, cacheEnabled := false, cacheTtl := 7, logLevel := "debug" }

/-- Each of the layers decides on a setting, and one setting is built in. -/
theorem configure_layers_partly : ∃ document, ConfiguredBy partly sparing document ∧
    Acceptable document ∧ AcceptableEnvironment partly.environment ∧
    configure partly sparing = .ok mixed ∧
    ∀ key : Key, key.of mixed = (((sparing.layer key).or
      (Layer.ofEnvironment partly.environment key)).or
        (Layer.ofDocument document key)).getD (key.of {}) := by
  have loaded : load partly sparing = .ok { maxConnections := 2 } := by decide +kernel
  have merged : merge partly.environment {} = ({ cacheTtl := 7, logLevel := "debug" }, .ok ()) := by
    decide +kernel
  have computed : configure partly sparing = .ok mixed := by decide +kernel
  obtain ⟨document, file, read⟩ := load_eq_ok_iff.mp loaded
  have acceptable : Acceptable document := (ofDocument_eq_some_iff.mp read).1
  have environment : AcceptableEnvironment partly.environment := (merge_eq_iff.mp merged).1
  obtain ⟨c, configured, decided, _⟩ := configure_layers partly sparing file acceptable environment
  cases configured.symm.trans computed
  exact ⟨document, file, acceptable, environment, computed, decided⟩

end Command

end Findings
