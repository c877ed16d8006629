import Findings.Proofs.Keyed
import Findings.Proofs.Run.Actions

/-!
How findings reach a context. The matcher adds and removes candidates and sets match conditions, one
identifier at a time. What a context knows of an identifier is what the last finding about it says
(`Context.get?_elements_receiveAll`, `Context.get?_conditions_receiveAll`), so findings about
different identifiers may come in any order: the context is the same, and so is whatever a run does
with it afterwards (`State.walk_ignores_order_of_delivery`).
-/

namespace Findings

/-! ## Findings -/

/-- What the matcher delivers. -/
inductive Finding where
  | add (id : String) (remark : Remark)
  | remove (id : String)
  | setCondition (id : String) (condition : Condition)

namespace Finding

/-- The identifier a finding is about. -/
def id : Finding → String
  | add id _ => id
  | remove id => id
  | setCondition id _ => id

/-- The step of a run that delivers a finding. -/
def step : Finding → Step
  | add id remark => .add id remark
  | remove id => .remove id
  | setCondition id condition => .setCondition id condition

/-- The findings about one identifier, in the order they come in. -/
def about (id : String) (findings : List Finding) : List Finding :=
  findings.filter fun finding => finding.id = id

/-- The second sequence has the findings of the first, and those about one identifier in the order
of the first. -/
structure Reordered (first second : List Finding) : Prop where
  perm : first.Perm second
  sameOrder : ∀ id, about id second = about id first

/-- What a finding makes of an identifier as a candidate: one with a remark, or none. -/
def remarkOn? (id : String) : Finding → Option (Option Remark)
  | add key remark => if id = key then some (some remark) else none
  | remove key => if id = key then some none else none
  | setCondition _ _ => none

/-- The match condition a finding sets for an identifier. -/
def conditionOn? (id : String) : Finding → Option Condition
  | setCondition key condition => if id = key then some condition else none
  | add _ _ => none
  | remove _ => none

/-- What the last addition or removal of an identifier makes of it. -/
def lastRemarkOn? (id : String) (findings : List Finding) : Option (Option Remark) :=
  findings.reverse.findSome? (remarkOn? id)

/-- The match condition that is set last for an identifier. -/
def lastConditionOn? (id : String) (findings : List Finding) : Option Condition :=
  findings.reverse.findSome? (conditionOn? id)

variable {id : String} {finding : Finding}

theorem remarkOn?_of_ne (different : finding.id ≠ id) : finding.remarkOn? id = none := by
  cases finding with
  | add key remark => exact if_neg different.symm
  | remove key => exact if_neg different.symm
  | setCondition key condition => rfl

theorem conditionOn?_of_ne (different : finding.id ≠ id) : finding.conditionOn? id = none := by
  cases finding with
  | add key remark => rfl
  | remove key => rfl
  | setCondition key condition => exact if_neg different.symm

theorem findSome?_reverse_cons {α : Type} (told : Finding → Option α) (finding : Finding)
    (rest : List Finding) :
    (finding :: rest).reverse.findSome? told = (rest.reverse.findSome? told).or (told finding) := by
  rw [List.reverse_cons, List.findSome?_append, List.findSome?_singleton]

/-- Findings about other identifiers can be left out where they tell nothing. -/
theorem findSome?_reverse_about {α : Type} {told : Finding → Option α}
    (silent : ∀ finding : Finding, finding.id ≠ id → told finding = none)
    (findings : List Finding) :
    (about id findings).reverse.findSome? told = findings.reverse.findSome? told := by
  induction findings with
  | nil => rfl
  | cons finding rest ih =>
    rw [findSome?_reverse_cons, ← ih]
    by_cases own : finding.id = id
    · have kept : about id (finding :: rest) = finding :: about id rest :=
        List.filter_cons_of_pos (decide_eq_true own)
      rw [kept, findSome?_reverse_cons]
    · have dropped : about id (finding :: rest) = about id rest :=
        List.filter_cons_of_neg (by simpa using own)
      rw [dropped, silent finding own, Option.or_none]

namespace Reordered

variable {first second : List Finding}

theorem lastRemarkOn?_eq (reordered : Reordered first second) (id : String) :
    lastRemarkOn? id second = lastRemarkOn? id first := by
  have silent : ∀ finding : Finding, finding.id ≠ id → finding.remarkOn? id = none :=
    fun _ => remarkOn?_of_ne
  unfold lastRemarkOn?
  rw [← findSome?_reverse_about silent second, ← findSome?_reverse_about silent first,
    reordered.sameOrder id]

theorem lastConditionOn?_eq (reordered : Reordered first second) (id : String) :
    lastConditionOn? id second = lastConditionOn? id first := by
  have silent : ∀ finding : Finding, finding.id ≠ id → finding.conditionOn? id = none :=
    fun _ => conditionOn?_of_ne
  unfold lastConditionOn?
  rw [← findSome?_reverse_about silent second, ← findSome?_reverse_about silent first,
    reordered.sameOrder id]

end Reordered

end Finding

/-! ## What a context makes of findings -/

namespace Context

/-- The context once a finding has come in. -/
def receive (c : Context) : Finding → Context
  | .add id remark => c.add id remark
  | .remove id => c.remove id
  | .setCondition id condition => c.setCondition id condition

/-- The context once findings have come in, one after the other. -/
def receiveAll (c : Context) (findings : List Finding) : Context := findings.foldl receive c

theorem receiveAll_cons (c : Context) (finding : Finding) (rest : List Finding) :
    c.receiveAll (finding :: rest) = (c.receive finding).receiveAll rest := rfl

theorem get?_elements_receive (c : Context) (finding : Finding) (id : String) :
    (c.receive finding).elements.get? id = (finding.remarkOn? id).getD (c.elements.get? id) := by
  cases finding with
  | add key remark =>
    have said := Keyed.get?_insert c.elements key remark id
    rw [Finding.remarkOn?, receive, add, said]
    split <;> rfl
  | remove key =>
    have gone := Keyed.get?_erase c.elements key id
    rw [Finding.remarkOn?, receive, remove, gone]
    split <;> rfl
  | setCondition key condition => rfl

theorem get?_conditions_receive (c : Context) (finding : Finding) (id : String) :
    (c.receive finding).conditions.get? id =
      (finding.conditionOn? id).or (c.conditions.get? id) := by
  cases finding with
  | add key remark => rfl
  | remove key => rfl
  | setCondition key condition =>
    have set := Keyed.get?_insert c.conditions key condition id
    rw [Finding.conditionOn?, receive, setCondition, set]
    split <;> rfl

/-- The last addition or removal of an identifier decides whether it is a candidate and what is
said of it. -/
theorem get?_elements_receiveAll (c : Context) (findings : List Finding) (id : String) :
    (c.receiveAll findings).elements.get? id =
      (Finding.lastRemarkOn? id findings).getD (c.elements.get? id) := by
  induction findings generalizing c with
  | nil => rfl
  | cons finding rest ih =>
    rw [receiveAll_cons, ih, get?_elements_receive]
    unfold Finding.lastRemarkOn?
    rw [Finding.findSome?_reverse_cons]
    cases rest.reverse.findSome? (Finding.remarkOn? id) with
    | some last => rfl
    | none => rw [Option.none_or, Option.getD_none]

/-- The condition set last for an identifier is its condition. -/
theorem get?_conditions_receiveAll (c : Context) (findings : List Finding) (id : String) :
    (c.receiveAll findings).conditions.get? id =
      (Finding.lastConditionOn? id findings).or (c.conditions.get? id) := by
  induction findings generalizing c with
  | nil => rfl
  | cons finding rest ih =>
    rw [receiveAll_cons, ih, get?_conditions_receive]
    unfold Finding.lastConditionOn?
    rw [Finding.findSome?_reverse_cons, Option.or_assoc]

/-- Findings concern candidates and conditions, and nothing else in a context. -/
theorem receiveAll_eq (c : Context) (findings : List Finding) :
    c.receiveAll findings = { c with
      elements := (c.receiveAll findings).elements
      conditions := (c.receiveAll findings).conditions } := by
  induction findings generalizing c with
  | nil => rfl
  | cons finding rest ih =>
    rw [receiveAll_cons, ih]
    cases finding <;> rfl

/-- Findings about different identifiers may come in any order. -/
theorem receiveAll_of_reordered {first second : List Finding}
    (reordered : Finding.Reordered first second) (c : Context) :
    c.receiveAll second = c.receiveAll first := by
  have elements : (c.receiveAll second).elements = (c.receiveAll first).elements := by
    apply Keyed.ext_get?
    intro id
    rw [get?_elements_receiveAll, get?_elements_receiveAll, reordered.lastRemarkOn?_eq]
  have conditions : (c.receiveAll second).conditions = (c.receiveAll first).conditions := by
    apply Keyed.ext_get?
    intro id
    rw [get?_conditions_receiveAll, get?_conditions_receiveAll, reordered.lastConditionOn?_eq]
  rw [receiveAll_eq c second, receiveAll_eq c first, elements, conditions]

end Context

/-! ## Runs -/

/-- The steps that deliver findings, each by a clock of its own. -/
def deliveries (findings : List (Clock × Finding)) : List (Clock × Step) :=
  findings.map fun timed => (timed.1, timed.2.step)

namespace State

/-- A delivery does nothing but change the context. -/
theorem step_finding (s : State) (clock : Clock) (finding : Finding) :
    s.step clock finding.step = s.edit (s.context.receive finding) := by
  cases finding <;> rfl

theorem walk_append (s : State) (steps more : List (Clock × Step)) :
    s.walk (steps ++ more) = s.walk steps ++ (s.after steps).walk more := by
  induction steps generalizing s with
  | nil => rfl
  | cons timed rest ih =>
    obtain ⟨clock, step⟩ := timed
    rw [List.cons_append, walk, ih, after_cons]
    rfl

theorem length_walk (s : State) (steps : List (Clock × Step)) :
    (s.walk steps).length = steps.length := by
  induction steps generalizing s with
  | nil => rfl
  | cons timed rest ih => exact congrArg (· + 1) (ih _)

theorem after_deliveries (s : State) (findings : List (Clock × Finding)) :
    s.after (deliveries findings) =
      { s with context := s.context.receiveAll (findings.map Prod.snd) } := by
  induction findings generalizing s with
  | nil => rfl
  | cons timed rest ih =>
    obtain ⟨clock, finding⟩ := timed
    change s.after ((clock, finding.step) :: deliveries rest) = _
    rw [after_cons, ih, step_finding]
    rfl

theorem messages_deliveries (s : State) (findings : List (Clock × Finding)) :
    s.messages (deliveries findings) = [] := by
  induction findings generalizing s with
  | nil => rfl
  | cons timed rest ih =>
    obtain ⟨clock, finding⟩ := timed
    change s.messages ((clock, finding.step) :: deliveries rest) = []
    rw [messages_cons, ih, step_finding]
    rfl

theorem messages_append (s : State) (steps more : List (Clock × Step)) :
    s.messages (steps ++ more) = s.messages steps ++ (s.after steps).messages more := by
  unfold messages
  rw [walk_append, List.flatMap_append]

/-- Behind the deliveries a run goes on as one that starts from the state they lead to. -/
theorem drop_walk_deliveries (s : State) (findings : List (Clock × Finding))
    (later : List (Clock × Step)) :
    (s.walk (deliveries findings ++ later)).drop findings.length =
      (s.after (deliveries findings)).walk later := by
  rw [walk_append]
  apply List.drop_left'
  rw [length_walk, deliveries, List.length_map]

/-- The entries of a batch are those of the candidates, in the order of the context. -/
theorem ids_of_step_synthesize {s : State} {clock : Clock} {batch : List Entry}
    (reported : (s.step clock .synthesize).result = .ok (.entries batch)) :
    batch.map Entry.id = s.context.elements.keys := by
  have course := synthesize_course s.context s.feed clock
  dsimp only [State.step] at reported
  cases result : (s.context.synthesize s.feed clock).result with
  | error e =>
    rw [result] at reported
    cases reported
  | ok entries =>
    rw [result] at reported
    cases reported
    exact (course.context_eq_of_ok result).2

/-- Findings may come in any order that keeps the order of those about one identifier. The state is
the same, and so is whatever a run does afterwards and tells on the whole: a synthesis has the same
result, its batch in the same order, and the same events. Of each identifier the last addition or
removal decides whether it is a candidate and what is said of it, and the condition set last is its
condition; nothing else in the context changes. At every point of any run the candidates are in
strictly ascending order of their bytes. -/
theorem walk_ignores_order_of_delivery (s : State) {first second : List (Clock × Finding)}
    (reordered : Finding.Reordered (first.map Prod.snd) (second.map Prod.snd)) :
    let settled := (s.after (deliveries first)).context
    s.after (deliveries second) = s.after (deliveries first) ∧
      (∀ later, (s.walk (deliveries second ++ later)).drop second.length =
          (s.walk (deliveries first ++ later)).drop first.length ∧
        s.messages (deliveries second ++ later) = s.messages (deliveries first ++ later)) ∧
      (∀ clock batch,
        ((s.after (deliveries second)).step clock .synthesize).result = .ok (.entries batch) →
          batch.map Entry.id = settled.elements.keys) ∧
      (∀ id,
        settled.elements.get? id =
            (Finding.lastRemarkOn? id (first.map Prod.snd)).getD (s.context.elements.get? id) ∧
          settled.conditions.get? id =
            (Finding.lastConditionOn? id (first.map Prod.snd)).or (s.context.conditions.get? id)) ∧
      settled = { s.context with
        elements := settled.elements, conditions := settled.conditions } ∧
      ∀ steps, (s.after steps).context.elements.keys.Pairwise Utf8.Before ∧
        (s.after steps).context.elements.keys.Nodup := by
  have same : s.after (deliveries second) = s.after (deliveries first) := by
    rw [after_deliveries, after_deliveries, Context.receiveAll_of_reordered reordered]
  have settled : (s.after (deliveries first)).context =
      s.context.receiveAll (first.map Prod.snd) := by
    rw [after_deliveries]
  refine ⟨same, fun later => ⟨?_, ?_⟩, fun clock batch reported => ?_, fun id => ⟨?_, ?_⟩, ?_,
    fun steps => ⟨Keyed.keys_ascending _, Keyed.keys_nodup _⟩⟩
  · rw [drop_walk_deliveries, drop_walk_deliveries, same]
  · rw [messages_append, messages_append, messages_deliveries, messages_deliveries, same]
  · rw [same] at reported
    exact ids_of_step_synthesize reported
  · rw [settled, Context.get?_elements_receiveAll]
  · rw [settled, Context.get?_conditions_receiveAll]
  · rw [settled]
    exact Context.receiveAll_eq _ _

/-- One candidate comes and goes before another one comes and gets its condition. -/
def oneByOne : List (Clock × Finding) :=
  [.add "CVE-2" .null, .remove "CVE-2", .add "CVE-1" .null,
    .setCondition "CVE-1" ⟨"2.0", .equal⟩].map fun finding => (.still "now", finding)

/-- The same findings, with those about the two candidates by turns. -/
def byTurns : List (Clock × Finding) :=
  [.add "CVE-2" .null, .add "CVE-1" .null, .remove "CVE-2",
    .setCondition "CVE-1" ⟨"2.0", .equal⟩].map fun finding => (.still "later", finding)

theorem walk_ignores_order_of_delivery_by_turns :
    Finding.Reordered (oneByOne.map Prod.snd) (byTurns.map Prod.snd) ∧
      warm.after (deliveries byTurns) = warm.after (deliveries oneByOne) ∧
      (warm.after (deliveries byTurns)).context.elements.keys = ["CVE-1"] := by
  have reordered : Finding.Reordered (oneByOne.map Prod.snd) (byTurns.map Prod.snd) := by
    constructor
    · exact .cons _ (.swap _ _ _)
    · intro id
      by_cases first : "CVE-1" = id
      · subst first
        rfl
      · by_cases second : "CVE-2" = id
        · subst second
          rfl
        · simp [oneByOne, byTurns, Finding.about, Finding.id, first, second]
  exact ⟨reordered, (walk_ignores_order_of_delivery warm reordered).1, by decide⟩

end State

end Findings
