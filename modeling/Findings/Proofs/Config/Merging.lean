import Findings.Proofs.Config.Layers
import Findings.Proofs.Keyed
import Mathlib.Data.List.Induction
import Mathlib.Data.Nat.Digits.Defs

/-!
What the environment does to a configuration. The variables are looked at one after another, and
each of them that is set either sets its setting or ends the merge (`Config.mergeAll_cons`,
`Config.mergeAll_cons_of_unacceptable`). So a merge lays a layer over the configuration, which is
all the environment says or what it says before the first word that cannot be read
(`Config.mergeAll_ends`), and which words can be read is told without reading them
(`Config.Key.readWord_eq_some_iff`).
-/

namespace Findings

/-! ## Numbers in decimal -/

namespace Number

/-- Decimal digits, the greatest first, that stand for a number. -/
structure Denotes (digits : List Char) (n : Nat) : Prop where
  nonempty : digits ≠ []
  decimal : ∀ c ∈ digits, '0' ≤ c ∧ c ≤ '9'
  value : Nat.ofDigits 10 (digits.reverse.map fun c => c.toNat - '0'.toNat) = n

variable {digits cs : List Char} {n bound : Nat}

theorem isDigit_iff {c : Char} : isDigit c = true ↔ '0' ≤ c ∧ c ≤ '9' := by
  rw [isDigit, Bool.and_eq_true, decide_eq_true_iff, decide_eq_true_iff]

theorem ofDigits_eq (all : ∀ c ∈ digits, isDigit c = true) :
    ofDigits 10 digits = Nat.ofDigits 10 (digits.reverse.map fun c => c.toNat - '0'.toNat) := by
  induction digits using List.reverseRecOn with
  | nil => rfl
  | append_singleton front c ih =>
    have before := ih fun d member => all d (List.mem_append_left _ member)
    have last : Text.Hex.value? c = some (c.toNat - '0'.toNat) :=
      if_pos (all c (List.mem_append_right _ List.mem_cons_self))
    rw [ofDigits, List.foldl_append, ← ofDigits, before, List.reverse_append]
    simp only [List.foldl_cons, List.foldl_nil, last, Option.getD_some, List.reverse_singleton,
      List.singleton_append, List.map_cons, Nat.ofDigits_cons]
    omega

/-- Digits are read when they stand for a number below the bound. -/
theorem ite_ofDigits_eq_some_iff : (if digits.isEmpty || !digits.all isDigit then none
      else
        let n := ofDigits 10 digits
        if n < bound then some n else none) = some n ↔ n < bound ∧ Denotes digits n := by
  constructor
  · intro read
    split at read
    next => cases read
    next proper =>
      have ⟨nonempty, all⟩ : digits ≠ [] ∧ ∀ c ∈ digits, isDigit c = true := by simpa using proper
      dsimp only at read
      split at read
      next small =>
        cases read
        exact ⟨small, nonempty, fun c member => isDigit_iff.mp (all c member),
          (ofDigits_eq all).symm⟩
      next => cases read
  · rintro ⟨small, nonempty, decimal, value⟩
    have all : ∀ c ∈ digits, isDigit c = true := fun c member => isDigit_iff.mpr (decimal c member)
    have proper : (digits.isEmpty || !digits.all isDigit) = false := by
      simpa [nonempty] using all
    have read : ofDigits 10 digits = n := (ofDigits_eq all).trans value
    rw [proper, read]
    exact if_pos small

/-- A text is read as a number exactly when it is decimal digits that stand for it, with or without
a plus before them, and the number is below the bound. -/
theorem below?_eq_some_iff : below? bound cs = some n ↔
    n < bound ∧ ∃ digits, Denotes digits n ∧ (cs = digits ∨ cs = '+' :: digits) := by
  unfold below?
  rw [ite_ofDigits_eq_some_iff]
  refine and_congr_right fun _ => ?_
  split
  next rest =>
    constructor
    · exact fun denotes => ⟨rest, denotes, .inr rfl⟩
    · rintro ⟨digits, denotes, rfl | same⟩
      · exact absurd (denotes.decimal '+' List.mem_cons_self) (by decide)
      · cases same
        exact denotes
  next unsigned =>
    constructor
    · exact fun denotes => ⟨cs, denotes, .inl rfl⟩
    · rintro ⟨digits, denotes, rfl | signed⟩
      · exact denotes
      · exact absurd signed (unsigned digits)

end Number

namespace Config

/-! ## Variables -/

namespace Key

/-- The variable that overrides the setting. -/
def variableName : Key → Option String
  | output => some "VDS_OUTPUT"
  | databasePath => some "VDS_FEED_PATH"
  | cacheEnabled => some "VDS_FEED_CACHE"
  | cacheTtl => some "VDS_FEED_CACHE_TTL"
  | logLevel => some "VDS_LOG_LEVEL"
  | maxConnections | logJson => none

/-- Reads what a variable says of the setting. -/
def readWord : (key : Key) → String → Option key.Value
  | output => OutputFormat.ofName?
  | databasePath => fun word => some (some word)
  | cacheEnabled => switch?
  | cacheTtl => word64?
  | logLevel => some
  | maxConnections | logJson => fun _ => none

/-- The words that set the setting, with what they set it to. -/
def Spells : (key : Key) → String → key.Value → Prop
  | output, word, format => word = "plain" ∧ format = .plain ∨ word = "json" ∧ format = .json
  | databasePath, word, path => path = some word
  | cacheEnabled, word, enabled =>
    word ∈ ["true", "1", "yes"] ∧ enabled = true ∨ word ∈ ["false", "0", "no"] ∧ enabled = false
  | cacheTtl, word, ttl => ∃ digits, Number.Denotes digits ttl.toNat ∧
    (word.toList = digits ∨ word.toList = '+' :: digits)
  | logLevel, word, level => level = word
  | maxConnections, _, _ | logJson, _, _ => False

/-- The value of the variable, if it is set. -/
def word (key : Key) (env : Environment) : Option String := key.variableName.bind env

/-- The variable that overrides the setting, with what it does. -/
def override? (key : Key) : Option Variable :=
  key.variableName.map fun name => ⟨name, fun word c => (key.readWord word).map (c.set key)⟩

/-- The settings that have variables, in the order in which these are looked at. -/
def overridden : List Key := [output, databasePath, cacheEnabled, cacheTtl, logLevel]

/-- The variable is not set, or its word sets its setting. -/
def Acceptable (key : Key) (env : Environment) : Prop :=
  ∀ word, key.word env = some word → ∃ value, key.Spells word value

theorem ofName?_eq_some_iff {word : String} {format : OutputFormat} :
    OutputFormat.ofName? word = some format ↔ output.Spells word format := by
  constructor
  · intro read
    have member := Keyed.mem_of_lookup read
    simpa [OutputFormat.cases, OutputFormat.name, Spells] using member
  · rintro (⟨rfl, rfl⟩ | ⟨rfl, rfl⟩) <;> decide

theorem switch?_eq_some_iff {word : String} {enabled : Bool} :
    switch? word = some enabled ↔ cacheEnabled.Spells word enabled := by
  constructor
  · intro read
    unfold switch? at read
    split at read
    next on =>
      cases read
      exact .inl ⟨by simpa using on, rfl⟩
    next =>
      split at read
      next off =>
        cases read
        exact .inr ⟨by simpa using off, rfl⟩
      next => cases read
  · have each : (∀ word ∈ ["true", "1", "yes"], switch? word = some true) ∧
        ∀ word ∈ ["false", "0", "no"], switch? word = some false := by decide
    rintro (⟨member, rfl⟩ | ⟨member, rfl⟩)
    · exact each.1 word member
    · exact each.2 word member

theorem word64?_eq_some_iff {word : String} {ttl : UInt64} :
    word64? word = some ttl ↔ cacheTtl.Spells word ttl := by
  have bound (n : Nat) (small : n < Nat.pow 2 64) : (UInt64.ofNat n).toNat = n :=
    Nat.mod_eq_of_lt small
  constructor
  · intro read
    obtain ⟨n, below, rfl⟩ := Option.map_eq_some_iff.mp read
    obtain ⟨small, spelled⟩ := Number.below?_eq_some_iff.mp below
    rw [Spells, bound n small]
    exact spelled
  · intro spelled
    have below := Number.below?_eq_some_iff.mpr ⟨ttl.toNat_lt, spelled⟩
    exact Option.map_eq_some_iff.mpr ⟨_, below, UInt64.ofNat_toNat⟩

/-- The words that can be read are those that set the setting. -/
theorem readWord_eq_some_iff {key : Key} {word : String} {value : key.Value} :
    key.readWord word = some value ↔ key.Spells word value := by
  cases key with
  | output => exact ofName?_eq_some_iff
  | databasePath => exact Option.some_inj.trans eq_comm
  | cacheEnabled => exact switch?_eq_some_iff
  | cacheTtl => exact word64?_eq_some_iff
  | logLevel => exact Option.some_inj.trans eq_comm
  | maxConnections => exact iff_of_false nofun id
  | logJson => exact iff_of_false nofun id

theorem readWord_eq_none_iff {key : Key} {word : String} :
    key.readWord word = none ↔ ∀ value, ¬key.Spells word value := by
  simp only [Option.eq_none_iff_forall_ne_some, Ne, readWord_eq_some_iff]

theorem isSome_readWord_iff {key : Key} {word : String} :
    (key.readWord word).isSome ↔ ∃ value, key.Spells word value := by
  simp only [Option.isSome_iff_exists, readWord_eq_some_iff]

end Key

/-- What the environment says of the settings. -/
def Layer.ofEnvironment (env : Environment) : Layer := fun key => (key.word env).bind key.readWord

/-- Every variable that is set has a value that can be read. -/
def AcceptableEnvironment (env : Environment) : Prop :=
  ∀ (key : Key) (word : String), key.word env = some word → (key.readWord word).isSome

theorem acceptableEnvironment_iff {env : Environment} :
    AcceptableEnvironment env ↔ ∀ key : Key, key.Acceptable env := by
  simp only [AcceptableEnvironment, Key.Acceptable, Key.isSome_readWord_iff]

/-- The variables are those of the settings that have one. -/
theorem overrides_eq : overrides = Key.overridden.filterMap Key.override? := rfl

/-! ## The merge -/

section Merging

variable {env : Environment} {key : Key}

/-- A variable that is not set or has an acceptable word is applied, and the merge goes on. -/
theorem mergeAll_cons (acceptable : key.Acceptable env) (rest : List Key) (c : Config) :
    mergeAll env ((key :: rest).filterMap Key.override?) c =
      mergeAll env (rest.filterMap Key.override?)
        (c.set key ((Layer.ofEnvironment env key).getD (key.of c))) := by
  unfold Layer.ofEnvironment
  unfold Key.Acceptable at acceptable
  unfold Key.word at *
  rw [List.filterMap_cons, Key.override?]
  cases named : key.variableName with
  | none => rw [Option.bind_none, Option.bind_none, Option.getD_none, set_of, Option.map_none]
  | some name =>
    rw [named, Option.bind_some] at acceptable
    rw [Option.bind_some, Option.map_some]
    dsimp only
    rw [mergeAll]
    cases given : env name with
    | none => rw [Option.bind_none, Option.getD_none, set_of]
    | some word =>
      obtain ⟨value, spelled⟩ := acceptable word given
      have read := Key.readWord_eq_some_iff.mpr spelled
      simp only [read, Option.map_some, Option.bind_some, Option.getD_some]

/-- A variable whose word is not acceptable ends the merge. -/
theorem mergeAll_cons_of_unacceptable {name word : String} (named : key.variableName = some name)
    (given : env name = some word) (unacceptable : ∀ value, ¬key.Spells word value)
    (rest : List Key) (c : Config) :
    mergeAll env ((key :: rest).filterMap Key.override?) c = (c, .error (.invalid name word)) := by
  have unread := Key.readWord_eq_none_iff.mpr unacceptable
  rw [List.filterMap_cons, Key.override?, named, Option.map_some]
  dsimp only
  rw [mergeAll, given]
  simp only [unread, Option.map_none]

/-- The first of some settings whose variable has a word that is not acceptable, with those before
and after it. -/
structure FirstUnacceptable (env : Environment) (keys before : List Key) (key : Key)
    (after : List Key) (name word : String) : Prop where
  split : keys = before ++ key :: after
  acceptable : ∀ k ∈ before, k.Acceptable env
  named : key.variableName = some name
  given : env name = some word
  unacceptable : ∀ value, ¬key.Spells word value

theorem FirstUnacceptable.not_forall_acceptable {keys before after : List Key} {name word : String}
    (stop : FirstUnacceptable env keys before key after name word) :
    ¬∀ k ∈ keys, k.Acceptable env := by
  intro all
  have member : key ∈ keys := by
    rw [stop.split]
    exact List.mem_append_right _ List.mem_cons_self
  have given : key.word env = some word := by
    rw [Key.word, stop.named]
    exact stop.given
  obtain ⟨value, spelled⟩ := all key member word given
  exact stop.unacceptable value spelled

/-- Variables are applied up to the first that is not acceptable, whatever they are laid over. -/
theorem mergeAll_ends (env : Environment) (keys : List Key) :
    ((∀ key ∈ keys, key.Acceptable env) ∧
      ∀ c, mergeAll env (keys.filterMap Key.override?) c =
        (c.under ((Layer.ofEnvironment env).restrict keys), .ok ())) ∨
    ∃ before key after name word, FirstUnacceptable env keys before key after name word ∧
      ∀ c, mergeAll env (keys.filterMap Key.override?) c =
        (c.under ((Layer.ofEnvironment env).restrict before), .error (.invalid name word)) := by
  induction keys with
  | nil =>
    refine .inl ⟨fun _ member => absurd member List.not_mem_nil, fun c => ?_⟩
    rw [under_restrict_nil]
    rfl
  | cons key rest ih =>
    by_cases acceptable : key.Acceptable env
    · rcases ih with ⟨all, merged⟩ | ⟨before, first, after, name, word, stop, merged⟩
      · refine .inl ⟨List.forall_mem_cons.mpr ⟨acceptable, all⟩, fun c => ?_⟩
        rw [mergeAll_cons acceptable, merged, under_restrict_cons]
      · refine .inr ⟨key :: before, first, after, name, word,
          { stop with split := ?_, acceptable := ?_ }, fun c => ?_⟩
        · rw [stop.split, List.cons_append]
        · exact List.forall_mem_cons.mpr ⟨acceptable, stop.acceptable⟩
        · rw [mergeAll_cons acceptable, merged, under_restrict_cons]
    · obtain ⟨word, given, unacceptable⟩ : ∃ word, key.word env = some word ∧
          ∀ value, ¬key.Spells word value := by
        simpa [Key.Acceptable] using acceptable
      obtain ⟨name, named, given⟩ := Option.bind_eq_some_iff.mp given
      refine .inr ⟨[], key, rest, name, word, ⟨rfl, fun _ member => absurd member List.not_mem_nil,
        named, given, unacceptable⟩, fun c => ?_⟩
      rw [mergeAll_cons_of_unacceptable named given unacceptable, under_restrict_nil]

/-- The settings that variables have no say in are kept. -/
theorem restrict_ofEnvironment_of_unset {keys : List Key}
    (unset : key ∈ keys → key.word env = none) :
    (Layer.ofEnvironment env).restrict keys key = none := by
  rw [Layer.restrict]
  split
  next member => rw [Layer.ofEnvironment, unset member, Option.bind_none]
  next => rfl

/-- A merge lays a layer over the configuration and has an outcome, both told by the environment
alone. -/
theorem exists_merge_eq (env : Environment) : ∃ keys outcome, ∀ c,
    merge env c = (c.under ((Layer.ofEnvironment env).restrict keys), outcome) := by
  rcases mergeAll_ends env Key.overridden with ⟨_, merged⟩ | ⟨_, _, _, _, _, _, merged⟩
  · exact ⟨_, _, merged⟩
  · exact ⟨_, _, merged⟩

theorem Key.mem_overridden_or (key : Key) : key ∈ overridden ∨ key.variableName = none := by
  cases key <;> decide

theorem acceptableEnvironment_iff_overridden :
    AcceptableEnvironment env ↔ ∀ key ∈ Key.overridden, key.Acceptable env := by
  rw [acceptableEnvironment_iff]
  refine ⟨fun all key _ => all key, fun all key => ?_⟩
  rcases key.mem_overridden_or with member | unnamed
  · exact all key member
  · intro word given
    rw [Key.word, unnamed] at given
    cases given

theorem restrict_overridden :
    (Layer.ofEnvironment env).restrict Key.overridden = Layer.ofEnvironment env := by
  funext key
  rcases key.mem_overridden_or with member | unnamed
  · exact if_pos member
  · rw [Layer.restrict, Layer.ofEnvironment, Key.word, unnamed]
    exact ite_self none

/-- A merge passes exactly when every variable that is set can be read, and then the configuration
has what they say. -/
theorem merge_eq_iff {c d : Config} :
    merge env c = (d, .ok ()) ↔
      AcceptableEnvironment env ∧ d = c.under (Layer.ofEnvironment env) := by
  rw [acceptableEnvironment_iff_overridden, merge, overrides_eq]
  rcases mergeAll_ends env Key.overridden with
    ⟨all, merged⟩ | ⟨before, key, after, name, word, stop, merged⟩
  · rw [merged, restrict_overridden, Prod.mk.injEq]
    exact ⟨fun ⟨same, _⟩ => ⟨all, same.symm⟩, fun ⟨_, same⟩ => ⟨same.symm, rfl⟩⟩
  · rw [merged]
    exact iff_of_false nofun fun ⟨all, _⟩ => stop.not_forall_acceptable all

/-- Variables change no setting but their own, however far the merge comes. -/
theorem of_merge_of_unset (unset : key.word env = none) (c : Config) :
    key.of (merge env c).1 = key.of c := by
  obtain ⟨keys, _, merged⟩ := exists_merge_eq env
  rw [merged]
  exact of_under_of_none (restrict_ofEnvironment_of_unset fun _ => unset) c

/-- Whether variables can be read, and which of them cannot, does not depend on what they are laid
over. -/
theorem merge_outcome_eq (env : Environment) (c d : Config) :
    (merge env c).2 = (merge env d).2 := by
  obtain ⟨_, _, merged⟩ := exists_merge_eq env
  rw [merged, merged]

end Merging

/-! ## What is left behind -/

/-- The variables of some settings have been applied as far as they are set, and nothing else has
changed. -/
structure Applied (env : Environment) (keys : List Key) (c d : Config) : Prop where
  spelled : ∀ key ∈ keys, ∀ word, key.word env = some word → key.Spells word (key.of d)
  kept : ∀ key : Key, (key ∈ keys → key.word env = none) → key.of d = key.of c

theorem applied_under {env : Environment} {keys : List Key}
    (acceptable : ∀ key ∈ keys, key.Acceptable env) (c : Config) :
    Applied env keys c (c.under ((Layer.ofEnvironment env).restrict keys)) where
  spelled key member word given := by
    obtain ⟨value, spelled⟩ := acceptable key member word given
    have read := Key.readWord_eq_some_iff.mpr spelled
    rw [of_under, Layer.restrict, if_pos member, Layer.ofEnvironment, given, Option.bind_some, read]
    exact spelled
  kept _ unset := of_under_of_none (restrict_ofEnvironment_of_unset unset) c

/-- What is asked of the variables that cannot have every word. -/
theorem forall_overridden_acceptable_iff {env : Environment} :
    (∀ key ∈ Key.overridden, key.Acceptable env) ↔
      (∀ word, env "VDS_OUTPUT" = some word → word = "plain" ∨ word = "json") ∧
      (∀ word, env "VDS_FEED_CACHE" = some word →
        word ∈ ["true", "1", "yes"] ∨ word ∈ ["false", "0", "no"]) ∧
      ∀ word, env "VDS_FEED_CACHE_TTL" = some word → ∃ digits n, Number.Denotes digits n ∧
        n < Nat.pow 2 64 ∧ (word.toList = digits ∨ word.toList = '+' :: digits) := by
  have output (word : String) : (∃ format, Key.output.Spells word format) ↔
      word = "plain" ∨ word = "json" := by
    simp only [Key.Spells, exists_or, exists_and_left, exists_eq, and_true]
  have cache (word : String) : (∃ enabled, Key.cacheEnabled.Spells word enabled) ↔
      word ∈ ["true", "1", "yes"] ∨ word ∈ ["false", "0", "no"] := by
    simp only [Key.Spells, exists_or, exists_and_left, exists_eq, and_true]
  have ttl (word : String) : (∃ ttl, Key.cacheTtl.Spells word ttl) ↔ ∃ digits n,
      Number.Denotes digits n ∧ n < Nat.pow 2 64 ∧
        (word.toList = digits ∨ word.toList = '+' :: digits) := by
    constructor
    · rintro ⟨ttl, digits, denotes, spelled⟩
      exact ⟨digits, ttl.toNat, denotes, ttl.toNat_lt, spelled⟩
    · rintro ⟨digits, n, denotes, small, spelled⟩
      refine ⟨UInt64.ofNat n, digits, ?_, spelled⟩
      rw [UInt64.toNat_ofNat_of_lt' small]
      exact denotes
  have path : Key.databasePath.Acceptable env := fun word _ => ⟨some word, rfl⟩
  have level : Key.logLevel.Acceptable env := fun word _ => ⟨word, rfl⟩
  simp only [Key.overridden, List.forall_mem_cons, List.not_mem_nil, IsEmpty.forall_iff,
    implies_true, path, level, true_and, and_true]
  simp only [Key.Acceptable, output, cache, ttl, Key.word, Key.variableName, Option.bind_some]

theorem under_under_self (c : Config) (layer : Layer) :
    (c.under layer).under layer = c.under layer := by
  apply ext_of
  intro key
  rw [of_under_under, of_under, Option.or_self]

/-- Merging the environment stops at the first variable that is not acceptable. It succeeds exactly
when each variable that is set can be read: a format or a truth value by one of its words, and a
lifetime in decimal, with or without a plus, below the least number that 64 bits do not hold. Then
every variable is applied. Otherwise the error has the name and the word of the first that cannot be
read, those before it are applied, and its own setting, those after it and those without a variable
are kept. Merging once more changes nothing. -/
theorem merge_stops_at_first_unacceptable (env : Environment) (c : Config) :
    Key.overridden.map Key.variableName = [some "VDS_OUTPUT", some "VDS_FEED_PATH",
      some "VDS_FEED_CACHE", some "VDS_FEED_CACHE_TTL", some "VDS_LOG_LEVEL"] ∧
    ((merge env c).2 = .ok () ↔
      (∀ word, env "VDS_OUTPUT" = some word → word = "plain" ∨ word = "json") ∧
      (∀ word, env "VDS_FEED_CACHE" = some word →
        word ∈ ["true", "1", "yes"] ∨ word ∈ ["false", "0", "no"]) ∧
      ∀ word, env "VDS_FEED_CACHE_TTL" = some word → ∃ digits n, Number.Denotes digits n ∧
        n < Nat.pow 2 64 ∧ (word.toList = digits ∨ word.toList = '+' :: digits)) ∧
    ((merge env c).2 = .ok () → Applied env Key.overridden c (merge env c).1) ∧
    (∀ e, (merge env c).2 = .error e → ∃ before key after name word,
      FirstUnacceptable env Key.overridden before key after name word ∧
      e = .invalid name word ∧ Applied env before c (merge env c).1 ∧
      ∀ k : Key, k ∈ key :: after ∨ k.variableName = none →
        k.of (merge env c).1 = k.of c) ∧
    merge env (merge env c).1 = merge env c := by
  have again : merge env (merge env c).1 = merge env c := by
    obtain ⟨_, _, merged⟩ := exists_merge_eq env
    rw [merged, merged, under_under_self]
  rw [← forall_overridden_acceptable_iff]
  rcases mergeAll_ends env Key.overridden with
    ⟨all, merged⟩ | ⟨before, key, after, name, word, stop, merged⟩
  · have passes : merge env c = _ := merged c
    rw [passes]
    exact ⟨rfl, iff_of_true rfl all, fun _ => applied_under all c, nofun, passes ▸ again⟩
  · have stops : merge env c = _ := merged c
    rw [stops]
    refine ⟨rfl, iff_of_false nofun stop.not_forall_acceptable, nofun, ?_, stops ▸ again⟩
    rintro _ ⟨⟩
    have applied := applied_under stop.acceptable c
    refine ⟨before, key, after, name, word, stop, rfl, applied, fun k later => applied.kept k ?_⟩
    intro earlier
    rcases later with later | unnamed
    · have distinct : (before ++ key :: after).Nodup := stop.split ▸ (by decide)
      exact absurd rfl ((List.nodup_append.mp distinct).2.2 k earlier k later)
    · rw [Key.word, unnamed, Option.bind_none]

end Config

end Findings
