import Findings.Proofs.Json.Recovery
import Findings.Synthesis

/-!
Contexts that are written down and read back. Each part of a context is recovered from the value it
is written as, in whatever order the members of its objects stand, and so is the context but for its
results, which are neither written nor read (`Context.written_context_restores_all_but_results`).
Nothing else of a context decides what is reported next, so the one that is read back is
synthesized as the one that was written (`Context.synthesize_bare`).
-/

namespace Findings

open Json
open Record (bind_eq_ok_iff)

/-! ## The subject -/

theorem Agent.unrepeated_toJson (a : Agent) : a.toJson.Unrepeated := by
  simp [toJson, Unrepeated, UnrepeatedMembers]

/-- Every part of an agent is a text. -/
theorem Agent.recovers (source : Source) (a : Agent) : (read source).Recovers a.toJson a := by
  refine Struct.recovers source (unrepeated_toJson _).1 ?_ fun members rearranged => ?_
  · simp [Struct.Accepts, shape, List.lookup_cons]
  · have text {name s} (part : List.lookup name _ = some (string s)) :=
      rearranged.text part
    simp only [bind_eq_ok_iff]
    exact ⟨_, text rfl, _, text rfl, _, text rfl, _, text rfl, rfl⟩

theorem SystemFacts.unrepeated_toJson (s : SystemFacts) : s.toJson.Unrepeated := by
  simp [toJson, Unrepeated, UnrepeatedMembers]

/-- Every fact of a system is a text. -/
theorem SystemFacts.recovers (source : Source) (s : SystemFacts) :
    (read source).Recovers s.toJson s := by
  refine Struct.recovers source (unrepeated_toJson _).1 ?_ fun members rearranged => ?_
  · simp [Struct.Accepts, shape, List.lookup_cons]
  · have text {name s} (part : List.lookup name _ = some (string s)) :=
      rearranged.text part
    simp only [bind_eq_ok_iff]
    exact ⟨_, text rfl, _, text rfl, _, text rfl, _, text rfl, _, text rfl, _, text rfl, _,
      text rfl, _, text rfl, _, text rfl, _, text rfl, _, text rfl, _, text rfl, _, text rfl, _,
      text rfl, _, text rfl, rfl⟩

theorem Package.unrepeated_toJson (p : Package) : p.toJson.Unrepeated := by
  simp [toJson, Unrepeated, UnrepeatedMembers, ofNat]
  cases p.itemId <;> trivial

/-- A package is texts, a size, and an identifier that may be absent. -/
theorem Package.recovers (source : Source) (p : Package) : (read source).Recovers p.toJson p := by
  have itemId := Reader.recovers_ofOption p.itemId
  have size := Reader.recovers_word "u64" p.size
  refine Struct.recovers source (unrepeated_toJson _).1 ?_ fun members rearranged => ?_
  · simp [Struct.Accepts, shape, List.lookup_cons, itemId.defaulted, size.defaulted]
  · have text {name s} (part : List.lookup name _ = some (string s)) :=
      rearranged.text part
    simp only [bind_eq_ok_iff]
    exact ⟨_, text rfl, _, text rfl, _, text rfl, _, text rfl, _, text rfl,
      _, rearranged.orElse rfl itemId, _, text rfl, _, text rfl, _, text rfl, _, text rfl,
      _, rearranged.orElse rfl size, _, text rfl, _, text rfl, _, text rfl, _, text rfl,
      _, text rfl, rfl⟩

theorem Payload.unrepeated_toJson (p : Payload) : p.toJson.Unrepeated := by
  cases p with
  | empty => trivial
  | package p => exact ⟨List.pairwise_singleton _ _, p.unrepeated_toJson, trivial⟩

/-- A payload is recovered by the name of its case, which a package has as the only key of an
object. -/
theorem Payload.recovers (source : Source) (p : Payload) : (read source).Recovers p.toJson p := by
  cases p with
  | empty => cases source <;> exact .of_plain rfl rfl
  | package p =>
    intro value arranges
    obtain ⟨members, rfl, rearranged⟩ := arranges.exists_members (List.pairwise_singleton _ _)
    obtain ⟨held, rfl, content⟩ := rearranged.eq_singleton
    have variant : variantOf source ["package", "empty"] (draft (.object [("package", held)])) =
        .ok ⟨"package", some (draft held), true⟩ := by
      cases source <;> rfl
    have package : Package.read source (draft held) = .ok p := p.recovers source held content
    refine bind_eq_ok_iff.mpr ⟨_, variant, ?_⟩
    exact bind_eq_ok_iff.mpr ⟨p, bind_eq_ok_iff.mpr ⟨p, package, rfl⟩, rfl⟩

/-! ## Conditions -/

/-- An operator is found by its name. -/
theorem Operator.lookup_cases (o : Operator) : cases.lookup o.name = some o := by
  cases o <;> rfl

theorem Condition.unrepeated_toJson (c : Condition) : c.toJson.Unrepeated := by
  simp [toJson, Unrepeated, UnrepeatedMembers]

/-- A condition is read back by the name of its operator. -/
theorem Condition.recovers (source : Source) (c : Condition) :
    (read source).Recovers c.toJson c := by
  have operator : (Operator.read source).Recovers (.string c.operator.name) c.operator :=
    Reader.recovers_unitVariant c.operator.lookup_cases
  refine Struct.recovers source (unrepeated_toJson _).1 ?_ fun members rearranged => ?_
  · simp [Struct.Accepts, shape, List.lookup_cons, operator.required]
  · simp only [bind_eq_ok_iff]
    exact ⟨_, rearranged.require rfl (Reader.recovers_string _), _, rearranged.require rfl operator,
      rfl⟩

/-! ## Contexts -/

theorem Scanner.lookup_cases (s : Scanner) : cases.lookup s.name = some s := by
  cases s <;> rfl

namespace Context

/-- The context without what was reported so far. -/
def bare (c : Context) : Context := { c with results := [] }

theorem unrepeated_toJson (c : Context) : c.toJson.Unrepeated := by
  have elements := unrepeated_map (m := c.elements) fun remark => remark.canonical.unrepeated
  have conditions := unrepeated_map (m := c.conditions) Condition.unrepeated_toJson
  exact ⟨by simp, trivial, c.agent.unrepeated_toJson, c.system.unrepeated_toJson,
    c.payload.unrepeated_toJson, elements, conditions, trivial⟩

/-- A context is read back without its results. -/
theorem recovers (source : Source) (c : Context) : (read source).Recovers c.toJson c.bare := by
  have scanner : (Scanner.read source).Recovers (.string c.scanner.name) c.scanner :=
    Reader.recovers_unitVariant c.scanner.lookup_cases
  have agent := Agent.recovers source c.agent
  have system := SystemFacts.recovers source c.system
  have payload := Payload.recovers source c.payload
  have elements := Reader.recovers_keyed (m := c.elements) fun _ remark _ =>
    Reader.recovers_remark remark
  have conditions := Reader.recovers_keyed (m := c.conditions) fun _ condition _ =>
    Condition.recovers source condition
  refine Struct.recovers source (unrepeated_toJson _).1 ?_ fun members rearranged => ?_
  · simp [Struct.Accepts, shape, List.lookup_cons, scanner.required, agent.defaulted,
      system.defaulted, payload.defaulted, elements.defaulted, conditions.defaulted]
  · simp only [bind_eq_ok_iff]
    exact ⟨_, rearranged.require rfl scanner, _, rearranged.orElse rfl agent,
      _, rearranged.orElse rfl system, _, rearranged.orElse rfl payload,
      _, rearranged.orElse rfl elements, _, rearranged.orElse rfl conditions, rfl⟩

end Context

/-! ## What is written -/

section Written

variable {depth : Nat}

theorem Agent.legible_toJson (a : Agent) (room : depth + 1 < nestingLimit) :
    a.toJson.Legible depth := by
  simp [toJson, Legible, LegibleMembers, room]

theorem SystemFacts.legible_toJson (s : SystemFacts) (room : depth + 1 < nestingLimit) :
    s.toJson.Legible depth := by
  simp [toJson, Legible, LegibleMembers, room]

theorem Package.legible_toJson (p : Package) (room : depth + 1 < nestingLimit) :
    p.toJson.Legible depth := by
  have size : Legible (depth + 1) (.ofNat p.size.toNat) := legible_ofNat p.size.toNat_lt
  simp [toJson, Legible, LegibleMembers, room, size]
  cases p.itemId <;> trivial

theorem Payload.legible_toJson (p : Payload) (room : depth + 2 < nestingLimit) :
    p.toJson.Legible depth := by
  cases p with
  | empty => trivial
  | package p => exact ⟨Nat.lt_of_succ_lt room, p.legible_toJson room, trivial⟩

theorem Condition.legible_toJson (c : Condition) (room : depth + 1 < nestingLimit) :
    c.toJson.Legible depth := by
  simp [toJson, Legible, LegibleMembers, room]

/-- All that is written of a context can be read back but for the numbers in what the matcher says
of the candidates. -/
theorem Context.legible_toJson {c : Context}
    (remarks : ∀ e ∈ c.elements.entries, e.2.value.Legible 2) : c.toJson.Legible 0 := by
  have elements : Legible 1 (.object (c.elements.map Remark.value).entries) := by
    refine ⟨by decide, legibleMembers_iff.mpr fun e member => ?_⟩
    obtain ⟨entry, held, rfl⟩ := List.mem_map.mp member
    exact remarks entry held
  have conditions : Legible 1 (.object (c.conditions.map Condition.toJson).entries) := by
    refine ⟨by decide, legibleMembers_iff.mpr fun e member => ?_⟩
    obtain ⟨entry, _, rfl⟩ := List.mem_map.mp member
    exact entry.2.legible_toJson (by decide)
  exact ⟨by decide, trivial, c.agent.legible_toJson (by decide),
    c.system.legible_toJson (by decide), c.payload.legible_toJson (by decide), elements, conditions,
    trivial⟩

end Written

namespace Context

/-! ## Results -/

/-- A context is read without entries. -/
theorem results_of_read {source : Source} {d : Draft} {context : Context}
    (accepted : read source d = .ok context) : context.results = [] := by
  simp only [read, bind_eq_ok_iff] at accepted
  -- Whatever the six fields are read as, no entries are among them.
  obtain ⟨_, _, _, _, _, _, _, _, _, _, _, _, _, _, returned⟩ := accepted
  cases returned
  rfl

/-- Results in a document are passed over. -/
theorem read_results (source : Source) (before after : List (String × Draft)) (results : Draft)
    (closed : Bool) :
    read source (.object (before ++ ("results", results) :: after) closed) =
      read source (.object (before ++ after) closed) := by
  have unnamed : (shape source).field? "results" = none := rfl
  refine Struct.known_bind_unnamed unnamed (fun members others same => ?_) source before after
    results closed
  simp (disch := decide) only [Json.require, orElse, same]

/-- What was reported so far has no part in what is reported next. -/
theorem synthesize_bare (c : Context) (feed : Feed) (clock : Clock) :
    c.synthesize feed clock =
      { c.bare.synthesize feed clock with
        context := { (c.bare.synthesize feed clock).context with
          results := c.results ++ (c.bare.synthesize feed clock).context.results } } := by
  have itemId : Synthesis.itemIdOf c.bare = Synthesis.itemIdOf c := rfl
  have candidates (itemId : Option String) :
      Synthesis.candidatesOf c.bare itemId = Synthesis.candidatesOf c itemId := rfl
  have elements : c.bare.elements = c.elements := rfl
  have agent : c.bare.agent = c.agent := rfl
  unfold synthesize
  rw [itemId, elements, agent]
  split
  next => simp [bare]
  next =>
    dsimp only
    cases Synthesis.itemIdOf c with
    | error e => simp [bare]
    | ok itemId =>
      dsimp only
      rw [candidates]
      split <;> simp [bare]

/-! ## The trip -/

/-- A context survives being written and read, but for what was reported so far. It is read from the
value it is written as with the members of every object in any order, and from the text of the value
as far as the numbers of its remarks are read back. The value has six members, none of them for the
results, and contexts with one value differ in their results only; results in a document are passed
over. A package without an identifier is written apart from one with an empty identifier. The
context that is read has the same item, the same candidates in the same order and the same outcome
of a synthesis. -/
theorem written_context_restores_all_but_results (c : Context) :
    (∀ source written, written.Arranges c.toJson → read source (draft written) = .ok c.bare) ∧
    (c.toJson.Arranges c.toJson ∧ c.toJson.sorted.Arranges c.toJson) ∧
    (∀ written : Json, written.Arranges c.toJson → written.Legible 0 →
      parse (read .text) written.compact = .ok c.bare) ∧
    ((∀ e ∈ c.elements.entries, e.2.value.Legible 2) →
      parse (read .text) c.toJson.compact = .ok c.bare) ∧
    (∃ members, c.toJson = .object members ∧ members.map Prod.fst =
      ["type", "agent", "os", "payload", "elements", "match_conditions"]) ∧
    (∀ other : Context, other.toJson = c.toJson ↔ other.bare = c.bare) ∧
    (∀ source d context, read source d = .ok context → context.results = []) ∧
    (∀ source before results after closed,
      read source (.object (before ++ ("results", results) :: after) closed) =
        read source (.object (before ++ after) closed)) ∧
    (∀ (p : Package) (written : Json),
      written.Arranges { c with payload := .package { p with itemId := none } }.toJson →
      ¬written.Arranges { c with payload := .package { p with itemId := some "" } }.toJson) ∧
    c.bare.itemId = c.itemId ∧
    (∀ itemId, Synthesis.candidatesOf c.bare itemId = Synthesis.candidatesOf c itemId) ∧
    ∀ feed clock, c.synthesize feed clock =
      { c.bare.synthesize feed clock with
        context := { (c.bare.synthesize feed clock).context with
          results := c.results ++ (c.bare.synthesize feed clock).context.results } } := by
  have read_back (c : Context) (source : Source) (written : Json)
      (arranges : written.Arranges c.toJson) : read source (draft written) = .ok c.bare :=
    c.recovers source written arranges
  refine ⟨read_back c, ⟨c.unrepeated_toJson.arranges, sorted_arranges _⟩, ?_, ?_, ⟨_, rfl, rfl⟩, ?_,
    fun source d context => results_of_read, ?_, ?_, rfl, fun _ => rfl, c.synthesize_bare⟩
  · exact fun _ => (c.recovers .text).parse_compact
  · intro remarks
    exact (c.recovers .text).parse_compact c.unrepeated_toJson.arranges (legible_toJson remarks)
  · intro other
    constructor
    · intro same
      have arranges := c.unrepeated_toJson.arranges
      exact Except.ok.inj ((read_back other .text _ (same ▸ arranges)).symm.trans
        (read_back c .text _ arranges))
    · intro same
      have written (d : Context) : d.toJson = d.bare.toJson := rfl
      rw [written other, written c, same]
  · exact fun source before results after closed => read_results source before after results closed
  · intro p written absent empty
    cases (read_back _ .text written absent).symm.trans (read_back _ .text written empty)

end Context

end Findings
