import Findings.Proofs.Config.Layers

/-!
What a document says of the settings. A document is acceptable if each section it has can be read
member by member (`Section.Acceptable`), and then the configuration it spells is the built-in one
under what its sections say (`Config.ofDocument_eq_some_iff`).
-/

namespace Findings

theorem Contents.isThere_of_text {contents : Contents} {text : String}
    (holds : contents.text = .ok text) : contents.isThere = true := by
  cases contents with
  | bytes stored => rfl
  | directory => rfl
  | absent => cases holds
  | beyondFile => cases holds
  | tooLong => cases holds

namespace Config

/-! ## Places of the settings in a document -/

/-- The sections of a document by name. -/
inductive Section where
  | general
  | feed
  | logging
  deriving DecidableEq, Repr

namespace Section

/-- The name in a document. -/
def name : Section → String
  | general => "general"
  | feed => "feed"
  | logging => "logging"

/-- The settings in the order in which an array gives them. -/
def keys : Section → List Key
  | general => [.output]
  | feed => [.databasePath, .maxConnections, .cacheEnabled, .cacheTtl]
  | logging => [.logLevel, .logJson]

/-- Reads the section. -/
def read : Section → Toml → Config → Option Config
  | general => readGeneral
  | feed => readFeed
  | logging => readLogging

end Section

namespace Key

/-- The section of the setting. -/
def place : Key → Section
  | output => .general
  | databasePath | maxConnections | cacheEnabled | cacheTtl => .feed
  | logLevel | logJson => .logging

/-- The name of the setting in its section. -/
def name : Key → String
  | output => "default_output"
  | databasePath => "database_path"
  | maxConnections => "max_connections"
  | cacheEnabled => "cache_enabled"
  | cacheTtl => "cache_ttl_seconds"
  | logLevel => "level"
  | logJson => "json"

/-- What a section has for the setting where it leaves it out. -/
def default : (key : Key) → key.Value
  | output => defaultOutput
  | databasePath => none
  | maxConnections => defaultMaxConnections
  | cacheEnabled => defaultCacheEnabled
  | cacheTtl => defaultCacheTtl
  | logLevel => defaultLogLevel
  | logJson => false

/-- A setting that is left out by its section has the same value as one without a section. -/
theorem default_eq (key : Key) : key.default = key.of {} := by
  cases key <;> rfl

/-- Reads what a document says of the setting. -/
def read : (key : Key) → Toml → Option key.Value
  | output => readOutput
  | databasePath => fun v => (readText v).map some
  | maxConnections => fun v => (readNat (Nat.pow 2 32) v).map UInt32.ofNat
  | cacheEnabled | logJson => readBool
  | cacheTtl => fun v => (readNat (Nat.pow 2 64) v).map UInt64.ofNat
  | logLevel => readText

/-- What members say of the setting. -/
def inMembers (key : Key) (members : List (String × Toml)) : Option key.Value :=
  (members.lookup key.name).bind key.read

/-- What members say of the setting can be read, if they say anything of it. -/
def Readable (key : Key) (members : List (String × Toml)) : Prop :=
  ∀ w, members.lookup key.name = some w → (key.read w).isSome

end Key

/-! ## Reading sections -/

namespace Section

/-- The members of a section that is written as some value. -/
def members (part : Section) (v : Toml) : Option (List (String × Toml)) :=
  sectionMembers (part.keys.map Key.name) v

/-- What members say of the settings of a section. -/
def layer (part : Section) (members : List (String × Toml)) : Layer :=
  Layer.restrict (fun key => key.inMembers members) part.keys

/-- An array begins a feed with its path, which it has to give. -/
def isBegun : Section → Toml → Bool
  | feed, .array [] => false
  | _, _ => true

/-- The value is a section, and of its settings those that it has can be read. -/
structure Reads (part : Section) (v : Toml) (members : List (String × Toml)) : Prop where
  spelled : part.members v = some members
  begun : part.isBegun v = true
  readable : ∀ key ∈ part.keys, key.Readable members

end Section

/-- A setting is read where the section has it, and has its default where it does not. -/
theorem Key.setting_eq_some_iff (key : Key) {members : List (String × Toml)}
    {value : key.Value} : setting members key.name key.read key.default = some value ↔
      key.Readable members ∧ value = (key.inMembers members).getD key.default := by
  unfold setting Readable inMembers
  cases members.lookup key.name with
  | none =>
    constructor
    · rintro ⟨⟩
      exact ⟨nofun, rfl⟩
    · rintro ⟨-, rfl⟩
      rfl
  | some w =>
    have readable : (∀ v, some w = some v → (key.read v).isSome) ↔ (key.read w).isSome := by simp
    rw [readable, Option.bind_some]
    change key.read w = some value ↔ _
    cases key.read w with
    | none => exact ⟨nofun, fun ⟨impossible, _⟩ => nomatch impossible⟩
    | some found =>
      exact ⟨fun same => ⟨rfl, (Option.some.inj same).symm⟩,
        fun ⟨_, same⟩ => congrArg some same.symm⟩

/-- Reads settings one after the other. -/
def readKeys (members : List (String × Toml)) : List Key → Config → Option Config
  | [], c => some c
  | key :: rest, c => do
    let value ← setting members key.name key.read key.default
    readKeys members rest (c.set key value)

/-- Nothing was said yet of any of the settings. -/
def Untouched (keys : List Key) (c : Config) : Prop := ∀ key ∈ keys, key.of c = key.default

theorem untouched_builtIn (keys : List Key) : Untouched keys {} := fun key _ =>
  key.default_eq.symm

/-- What is said of other settings touches none of these. -/
theorem Untouched.under {keys others : List Key} {c : Config} (untouched : Untouched keys c)
    (apart : ∀ key ∈ keys, key ∉ others) (layer : Layer) :
    Untouched keys (c.under (layer.restrict others)) := by
  intro key member
  have unsaid : layer.restrict others key = none := if_neg (apart key member)
  rw [of_under_of_none unsaid]
  exact untouched key member

theorem readKeys_eq_some_iff {members : List (String × Toml)} {keys : List Key} {c d : Config}
    (apart : keys.Nodup) (untouched : Untouched keys c) :
    readKeys members keys c = some d ↔ (∀ key ∈ keys, key.Readable members) ∧
      d = c.under (Layer.restrict (fun key => key.inMembers members) keys) := by
  induction keys generalizing c with
  | nil =>
    rw [under_restrict_nil, readKeys, Option.some_inj, eq_comm]
    exact (and_iff_right fun _ member => absurd member List.not_mem_nil).symm
  | cons key rest ih =>
    obtain ⟨first, others⟩ := List.nodup_cons.mp apart
    have later (value : key.Value) : Untouched rest (c.set key value) := by
      intro other member
      rw [of_set_of_ne c value fun same => first (same ▸ member)]
      exact untouched other (List.mem_cons_of_mem key member)
    rw [List.forall_mem_cons, under_restrict_cons, readKeys, untouched key List.mem_cons_self]
    constructor
    · intro result
      obtain ⟨value, set, result⟩ := Option.bind_eq_some_iff.mp result
      obtain ⟨first, rfl⟩ := key.setting_eq_some_iff.mp set
      obtain ⟨others, rfl⟩ := (ih others (later _)).mp result
      exact ⟨⟨first, others⟩, rfl⟩
    · rintro ⟨⟨first, readable⟩, rfl⟩
      have set := key.setting_eq_some_iff.mpr ⟨first, rfl⟩
      exact Option.bind_eq_some_iff.mpr ⟨_, set, (ih others (later _)).mpr ⟨readable, rfl⟩⟩

/-- A section is read setting by setting. -/
theorem Section.read_eq (part : Section) (v : Toml) (c : Config) :
    part.read v c = (part.members v).bind fun members =>
      if part.isBegun v then readKeys members part.keys c else none := by
  cases part with
  | general => rfl
  | feed =>
    have members : Section.feed.members v = sectionMembers
      ["database_path", "max_connections", "cache_enabled", "cache_ttl_seconds"] v := rfl
    unfold Section.read readFeed
    rw [members]
    dsimp only
    refine congrArg _ (funext fun members => ?_)
    -- Only the feed refuses a value that is a section: an array without a path.
    split
    next => rfl
    next begun =>
      have begun : Section.feed.isBegun v = true := by
        unfold isBegun
        split
        · exact absurd rfl begun
        · rfl
      rw [if_pos begun]
      rfl
  | logging => rfl

theorem Section.nodup_keys (part : Section) : part.keys.Nodup := by
  cases part <;> decide

/-- A section that can be read says what its members say, and of no other setting. -/
theorem Section.read_eq_some_iff {part : Section} {v : Toml} {c d : Config}
    (untouched : Untouched part.keys c) : part.read v c = some d ↔
      ∃ members, part.Reads v members ∧ d = c.under (part.layer members) := by
  rw [part.read_eq, Option.bind_eq_some_iff]
  refine exists_congr fun members => ?_
  rw [Option.ite_none_right_eq_some, readKeys_eq_some_iff part.nodup_keys untouched]
  constructor
  · rintro ⟨spelled, begun, readable, same⟩
    exact ⟨⟨spelled, begun, readable⟩, same⟩
  · rintro ⟨⟨spelled, begun, readable⟩, same⟩
    exact ⟨spelled, begun, readable, same⟩

/-! ## Reading documents -/

theorem Key.mem_keys_iff {key : Key} {part : Section} : key ∈ part.keys ↔ key.place = part := by
  cases key <;> cases part <;> decide

/-- What a document says of the settings. -/
def Layer.ofDocument (document : List (String × Toml)) : Layer := fun key =>
  (document.lookup key.place.name).bind fun v => (key.place.members v).bind key.inMembers

/-- The document leaves the section out, or has one that can be read. -/
def Section.Acceptable (part : Section) (document : List (String × Toml)) : Prop :=
  ∀ v, document.lookup part.name = some v → ∃ members, part.Reads v members

/-- The sections of the document can be read, and what it says beside them is in numbers that are
not too great. -/
structure Acceptable (document : List (String × Toml)) : Prop where
  range : Toml.membersWithinRange (document.filter fun m => !sections.contains m.1) = true
  parts : ∀ part : Section, part.Acceptable document

theorem readSection_eq_some_iff {document : List (String × Toml)} {c d : Config} (part : Section)
    (untouched : Untouched part.keys c) :
    readSection document part.name part.read c = some d ↔ part.Acceptable document ∧
      d = c.under ((Layer.ofDocument document).restrict part.keys) := by
  unfold readSection Section.Acceptable
  cases found : document.lookup part.name with
  | none =>
    have unsaid (key : Key) : (Layer.ofDocument document).restrict part.keys key = none := by
      unfold Layer.restrict Layer.ofDocument
      split
      next member => rw [Key.mem_keys_iff.mp member, found, Option.bind_none]
      next => rfl
    have kept : c.under ((Layer.ofDocument document).restrict part.keys) = c :=
      ext_of fun key => of_under_of_none (unsaid key) c
    rw [kept, Option.some_inj, eq_comm]
    exact (and_iff_right nofun).symm
  | some v =>
    have said {members : List (String × Toml)} (reads : part.Reads v members) :
        (Layer.ofDocument document).restrict part.keys = part.layer members := by
      funext key
      unfold Section.layer Layer.restrict Layer.ofDocument
      split
      next member =>
        rw [Key.mem_keys_iff.mp member, found, Option.bind_some, reads.spelled, Option.bind_some]
      next => rfl
    dsimp only
    rw [Section.read_eq_some_iff untouched]
    constructor
    · rintro ⟨members, reads, rfl⟩
      refine ⟨fun w same => ?_, by rw [said reads]⟩
      cases same
      exact ⟨members, reads⟩
    · rintro ⟨acceptable, rfl⟩
      obtain ⟨members, reads⟩ := acceptable v rfl
      exact ⟨members, reads, by rw [said reads]⟩

theorem Section.not_mem_keys (part other : Section) (different : part ≠ other) :
    ∀ key ∈ part.keys, key ∉ other.keys := fun _ here there =>
  different ((Key.mem_keys_iff.mp here).symm.trans (Key.mem_keys_iff.mp there))

/-- The sections share out the settings. -/
theorem under_sections (c : Config) (layer : Layer) :
    ((c.under (layer.restrict Section.general.keys)).under
      (layer.restrict Section.feed.keys)).under (layer.restrict Section.logging.keys) =
      c.under layer :=
  ext_of fun key => by cases key <;> rfl

/-- The configuration of a document has what the document says, and what is built in where it says
nothing. -/
theorem ofDocument_eq_some_iff {document : List (String × Toml)} {c : Config} :
    ofDocument document = some c ↔
      Acceptable document ∧ c = under {} (Layer.ofDocument document) := by
  let layer := Layer.ofDocument document
  -- No section was read before that has a setting of the section.
  have fresh (part : Section) : Untouched part.keys {} := untouched_builtIn _
  have feedFresh := (fresh .feed).under (Section.not_mem_keys .feed .general nofun) layer
  have loggingFresh := ((fresh .logging).under
    (Section.not_mem_keys .logging .general nofun) layer).under
    (Section.not_mem_keys .logging .feed nofun) layer
  constructor
  · intro result
    unfold ofDocument at result
    split at result
    next => cases result
    next within =>
      obtain ⟨c₁, general, result⟩ := Option.bind_eq_some_iff.mp result
      obtain ⟨c₂, feed, logging⟩ := Option.bind_eq_some_iff.mp result
      obtain ⟨first, rfl⟩ := (readSection_eq_some_iff .general (fresh _)).mp general
      obtain ⟨second, rfl⟩ := (readSection_eq_some_iff .feed feedFresh).mp feed
      obtain ⟨third, rfl⟩ := (readSection_eq_some_iff .logging loggingFresh).mp logging
      rw [under_sections]
      refine ⟨⟨by simpa using within, fun part => ?_⟩, rfl⟩
      cases part with
      | general => exact first
      | feed => exact second
      | logging => exact third
  · rintro ⟨⟨range, parts⟩, rfl⟩
    have general := (readSection_eq_some_iff .general (fresh _)).mpr ⟨parts .general, rfl⟩
    have feed := (readSection_eq_some_iff .feed feedFresh).mpr ⟨parts .feed, rfl⟩
    have logging := (readSection_eq_some_iff .logging loggingFresh).mpr ⟨parts .logging, rfl⟩
    rw [under_sections] at logging
    unfold ofDocument
    rw [range]
    exact Option.bind_eq_some_iff.mpr ⟨_, general, Option.bind_eq_some_iff.mpr ⟨_, feed, logging⟩⟩

theorem loadFile_eq_ok_iff {path : String} {contents : Contents} {c : Config} :
    loadFile path contents = .ok c ↔ ∃ text document, contents.text = .ok text ∧
      Toml.ofText? text = some document ∧ ofDocument document = some c := by
  unfold loadFile
  cases contents.text with
  | error complaint =>
    constructor
    · rintro ⟨⟩
    · rintro ⟨_, _, ⟨⟩, _⟩
  | ok text =>
    dsimp only
    constructor
    · intro loaded
      split at loaded
      next d result =>
        cases loaded
        obtain ⟨document, spelled, read⟩ := Option.bind_eq_some_iff.mp result
        exact ⟨text, document, rfl, spelled, read⟩
      next => cases loaded
    · rintro ⟨_, document, ⟨⟩, spelled, read⟩
      have result : ofText? text = some c := Option.bind_eq_some_iff.mpr ⟨document, spelled, read⟩
      rw [result]

/-- The document does not set the setting, for which there are many ways. -/
inductive Key.LeftOut (key : Key) : List (String × Toml) → Prop
  /-- Nothing is set at all. -/
  | document : LeftOut key []
  /-- The section is missing. -/
  | part {document : List (String × Toml)} (missing : document.lookup key.place.name = none) :
    LeftOut key document
  /-- The section is empty. -/
  | vacant {document : List (String × Toml)}
    (empty : document.lookup key.place.name = some (.table [])) : LeftOut key document
  /-- The section does not have the setting. -/
  | member {document members : List (String × Toml)} {v : Toml}
    (found : document.lookup key.place.name = some v) (spelled : key.place.members v = some members)
    (missing : members.lookup key.name = none) : LeftOut key document

theorem Key.LeftOut.unsaid {key : Key} {document : List (String × Toml)}
    (left : key.LeftOut document) : Layer.ofDocument document key = none := by
  unfold Layer.ofDocument
  cases left with
  | document => rfl
  | part missing => rw [missing, Option.bind_none]
  | vacant empty =>
    rw [empty]
    rfl
  | member found spelled missing =>
    rw [found, Option.bind_some, spelled, Option.bind_some, Key.inMembers, missing,
      Option.bind_none]

end Config

end Findings
