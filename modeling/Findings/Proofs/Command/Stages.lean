import Findings.Proofs.Command.Configuring
import Findings.Proofs.Context.Restoring
import Findings.Proofs.Json.Range
import Findings.Proofs.Record.Reading
import Findings.Proofs.Run.Results

/-!
The stages of a run. They follow one another, and each can fail by itself, so several may fail in
one run. The first that does decides (`run_ends`): nothing is printed, and its fault is what is
complained of. Only where all of them pass the findings are printed.
-/

namespace Findings

namespace Command

/-! ## The context -/

/-- A context that is read is read from a text. -/
theorem exists_parse_of_readContext {s : Surroundings} {path : String} {context : Context}
    (accepted : readContext s path = .ok context) :
    ∃ text, Json.parse (Context.read .text) text = .ok context := by
  obtain ⟨text, _, accepted⟩ := Record.bind_eq_ok_iff.mp accepted
  cases parsed : Json.parse (Context.read .text) text with
  | error e =>
    rw [parsed] at accepted
    cases accepted
  | ok other =>
    rw [parsed] at accepted
    cases accepted
    exact ⟨text, parsed⟩

theorem results_of_readContext {s : Surroundings} {path : String} {context : Context}
    (accepted : readContext s path = .ok context) : context.results = [] := by
  obtain ⟨text, parsed⟩ := exists_parse_of_readContext accepted
  obtain ⟨draft, _, _, read⟩ := Json.exists_draft_of_parse parsed
  exact Context.results_of_read read

/-! ## Stages -/

/-- The stages of a run. -/
inductive Stage where
  | configuration
  | environment
  | context
  | feedPath
  | database
  | synthesis
  deriving DecidableEq, Repr

/-- The place of a stage in the order in which they are taken. -/
def Stage.rank : Stage → Nat
  | configuration => 0
  | environment => 1
  | context => 2
  | feedPath => 3
  | database => 4
  | synthesis => 5

theorem Stage.eq_of_rank_eq {one other : Stage} (same : one.rank = other.rank) : one = other := by
  cases one <;> cases other <;> first | rfl | cases same

/-- What fails at a stage, whatever becomes of the others. Of the stages before it only what it
works on counts. -/
inductive Fails (s : Surroundings) (time : String) (a : Arguments) : Stage → Fault → Prop
  | configuration {e : ConfigError} (unread : load s a = .error e) :
    Fails s time a .configuration (.error (.config e))
  | environment {e : ConfigError} (unread : (Config.merge s.environment {}).2 = .error e) :
    Fails s time a .environment (.error (.config e))
  | context {fault : Fault} (unread : readContext s a.context = .error fault) :
    Fails s time a .context fault
  | feedPath {c : Config} {e : ConfigError} (configured : configure s a = .ok c)
    (unset : c.feedPath = .error e) : Fails s time a .feedPath (.error (.config e))
  | database {c : Config} {path : String} {e : Error} (configured : configure s a = .ok c)
    (chosen : c.feedPath = .ok path) (unopened : openFeed s c = .error e) :
    Fails s time a .database (.error e)
  | synthesis {c : Config} {context : Context} {path : String} {feed : Feed} {e : Error}
    (configured : configure s a = .ok c) (read : readContext s a.context = .ok context)
    (opened : openFeed s c = .ok (path, feed))
    (failed : (context.synthesize feed (.still time)).result = .error e) :
    Fails s time a .synthesis (.error e)

/-- All stages pass: the configuration is loaded and merged, the context is read, a path is set and
leads to a database that opens, and every candidate comes to an entry. -/
structure Passes (s : Surroundings) (time : String) (a : Arguments) (c : Config)
    (context : Context) (entries : List Entry) : Prop where
  configured : configure s a = .ok c
  read : readContext s a.context = .ok context
  synthesized : ∃ path feed, openFeed s c = .ok (path, feed) ∧
    (context.synthesize feed (.still time)).result = .ok entries

/-- No stage fails up to a place. -/
def Clear (s : Surroundings) (time : String) (a : Arguments) (rank : Nat) : Prop :=
  ∀ stage, stage.rank < rank → ∀ fault, ¬ Fails s time a stage fault

/-- A stage fails, and none before it. -/
structure FailsFirst (s : Surroundings) (time : String) (a : Arguments) (stage : Stage)
    (fault : Fault) : Prop where
  fails : Fails s time a stage fault
  clear : Clear s time a stage.rank

variable {s : Surroundings} {time : String} {a : Arguments} {stage : Stage} {fault : Fault}

/-- A stage fails in one way. -/
theorem Fails.unique {other : Fault} (fails : Fails s time a stage fault)
    (fails' : Fails s time a stage other) : fault = other := by
  cases fails with
  | configuration unread =>
    cases fails' with
    | configuration unread' =>
      cases unread.symm.trans unread'
      rfl
  | environment unread =>
    cases fails' with
    | environment unread' =>
      cases unread.symm.trans unread'
      rfl
  | context unread =>
    cases fails' with
    | context unread' =>
      cases unread.symm.trans unread'
      rfl
  | feedPath configured unset =>
    cases fails' with
    | feedPath configured' unset' =>
      cases configured.symm.trans configured'
      cases unset.symm.trans unset'
      rfl
  | database configured _ unopened =>
    cases fails' with
    | database configured' _ unopened' =>
      cases configured.symm.trans configured'
      cases unopened.symm.trans unopened'
      rfl
  | synthesis configured read opened failed =>
    cases fails' with
    | synthesis configured' read' opened' failed' =>
      cases configured.symm.trans configured'
      cases read.symm.trans read'
      cases opened.symm.trans opened'
      cases failed.symm.trans failed'
      rfl

theorem clear_zero : Clear s time a 0 := fun _ before => absurd before (Nat.not_lt_zero _)

theorem Clear.succ (clear : Clear s time a stage.rank)
    (sound : ∀ fault, ¬ Fails s time a stage fault) : Clear s time a (stage.rank + 1) := by
  intro other before
  rcases Nat.lt_succ_iff_lt_or_eq.mp before with earlier | same
  · exact clear other earlier
  · rw [Stage.eq_of_rank_eq same]
    exact sound

/-- Of the stages that fail one is the first, and it fails in one way. -/
theorem FailsFirst.unique {other : Stage} {fault' : Fault} (first : FailsFirst s time a stage fault)
    (first' : FailsFirst s time a other fault') : stage = other ∧ fault = fault' := by
  have same : stage = other := by
    apply Stage.eq_of_rank_eq
    rcases Nat.lt_trichotomy stage.rank other.rank with earlier | same | later
    · exact absurd first.fails (first'.clear stage earlier fault)
    · exact same
    · exact absurd first'.fails (first.clear other later fault')
  subst same
  exact ⟨rfl, first.fails.unique first'.fails⟩

/-! ## The whole run -/

/-- The ways in which a run ends. -/
inductive Ends (s : Surroundings) (time : String) (a : Arguments) : Ending → Prop
  | printed {c : Config} {context : Context} {entries : List Entry}
    (passes : Passes s time a c context entries) (log : List Log.Line) :
    Ends s time a ⟨0, Report.text c.output entries, none, log, c.logJson⟩
  | complained {stage : Stage} {fault : Fault} (first : FailsFirst s time a stage fault)
    (log : List Log.Line) (logJson : Bool) : Ends s time a (failing fault log logJson)

theorem configure_eq (s : Surroundings) (a : Arguments) :
    configure s a = ((load s a).mapError Error.config).bind fun loaded =>
      ((loaded.merge s.environment).2.mapError Error.config).bind fun _ =>
        .ok (a.apply (loaded.merge s.environment).1) := rfl

theorem openFeed_of_unset {c : Config} {e : ConfigError} (unset : c.feedPath = .error e) :
    openFeed s c = .error (.config e) := by
  rw [openFeed, unset]
  rfl

/-- Where all stages pass none of them fails. -/
theorem Passes.sound {c : Config} {context : Context} {entries : List Entry}
    (passes : Passes s time a c context entries) (fails : Fails s time a stage fault) : False := by
  obtain ⟨configured, read, path, feed, opened, synthesized⟩ := passes
  cases fails with
  | configuration unread =>
    rw [configure_eq, unread] at configured
    cases configured
  | environment unread =>
    rw [configure_eq] at configured
    cases loaded : load s a with
    | error e =>
      rw [loaded] at configured
      cases configured
    | ok base =>
      have outcome := Config.merge_outcome_eq s.environment base {}
      rw [loaded, Except.mapError, Except.bind, outcome, unread] at configured
      cases configured
  | context unread => cases read.symm.trans unread
  | feedPath configured' unset =>
    cases configured.symm.trans configured'
    cases opened.symm.trans (openFeed_of_unset unset)
  | database configured' _ unopened =>
    cases configured.symm.trans configured'
    cases opened.symm.trans unopened
  | synthesis configured' read' opened' failed =>
    cases configured.symm.trans configured'
    cases read.symm.trans read'
    cases opened.symm.trans opened'
    cases synthesized.symm.trans failed

theorem Passes.unique {c d : Config} {context other : Context} {entries others : List Entry}
    (passes : Passes s time a c context entries) (passes' : Passes s time a d other others) :
    c = d ∧ context = other ∧ entries = others := by
  obtain ⟨configured, read, path, feed, opened, synthesized⟩ := passes
  obtain ⟨configured', read', path', feed', opened', synthesized'⟩ := passes'
  cases configured.symm.trans configured'
  cases read.symm.trans read'
  cases opened.symm.trans opened'
  cases synthesized.symm.trans synthesized'
  exact ⟨rfl, rfl, rfl⟩

/-- The configuration and the environment are the first two stages. -/
theorem configure_cases (s : Surroundings) (time : String) (a : Arguments) :
    (∃ stage e, FailsFirst s time a stage (.error e) ∧ configure s a = .error e) ∨
      ∃ c, configure s a = .ok c ∧ Clear s time a Stage.context.rank := by
  have clear : Clear s time a Stage.configuration.rank := clear_zero
  rw [configure_eq]
  cases loaded : load s a with
  | error e => exact .inl ⟨.configuration, .config e, ⟨.configuration loaded, clear⟩, rfl⟩
  | ok base =>
    have clear : Clear s time a Stage.environment.rank := clear.succ fun fault fails => by
      cases fails with
      | configuration unread => cases loaded.symm.trans unread
    have outcome := Config.merge_outcome_eq s.environment base {}
    rw [Except.mapError, Except.bind, outcome]
    cases merged : (Config.merge s.environment {}).2 with
    | error e => exact .inl ⟨.environment, .config e, ⟨.environment merged, clear⟩, rfl⟩
    | ok _ =>
      refine .inr ⟨_, rfl, clear.succ fun fault fails => ?_⟩
      cases fails with
      | environment unread => cases merged.symm.trans unread

/-- What a configured run prints, or which stage fails behind the configuration. -/
theorem perform_cases {c : Config} (configured : configure s a = .ok c)
    (clear : Clear s time a Stage.context.rank) :
    (∃ stage fault, FailsFirst s time a stage fault ∧ (perform s time a c).1 = .error fault) ∨
      ∃ context entries, Passes s time a c context entries ∧
        (perform s time a c).1 = .ok (Report.text c.output (context.results ++ entries)) := by
  unfold perform
  cases read : readContext s a.context with
  | error fault => exact .inl ⟨.context, fault, ⟨.context read, clear⟩, rfl⟩
  | ok context =>
    have clear : Clear s time a Stage.feedPath.rank := clear.succ fun fault fails => by
      cases fails with
      | context unread => cases read.symm.trans unread
    cases chosen : c.feedPath with
    | error e =>
      rw [openFeed_of_unset chosen]
      exact .inl ⟨.feedPath, _, ⟨.feedPath configured chosen, clear⟩, rfl⟩
    | ok path =>
      have clear : Clear s time a Stage.database.rank := clear.succ fun fault fails => by
        cases fails with
        | feedPath configured' unset =>
          cases configured.symm.trans configured'
          cases chosen.symm.trans unset
      cases opened : openFeed s c with
      | error e => exact .inl ⟨.database, _, ⟨.database configured chosen opened, clear⟩, rfl⟩
      | ok pair =>
        obtain ⟨path, feed⟩ := pair
        have clear : Clear s time a Stage.synthesis.rank := clear.succ fun fault fails => by
          cases fails with
          | database configured' _ unopened =>
            cases configured.symm.trans configured'
            cases opened.symm.trans unopened
        dsimp only
        have course := synthesize_course context feed (.still time)
        cases result : (context.synthesize feed (.still time)).result with
        | error e =>
          exact .inl ⟨.synthesis, _, ⟨.synthesis configured read opened result, clear⟩, rfl⟩
        | ok entries =>
          refine .inr ⟨context, entries, ⟨configured, read, path, feed, opened, result⟩, ?_⟩
          rw [(course.context_eq_of_ok result).1]

/-- The first stage that fails decides, and only where none fails anything is printed. -/
theorem run_ends (s : Surroundings) (time : String) (a : Arguments) :
    Ends s time a (run s time a) := by
  unfold run
  rcases configure_cases s time a with ⟨stage, e, first, unconfigured⟩ | ⟨c, configured, clear⟩
  · rw [unconfigured]
    exact .complained first _ _
  · rw [configured]
    dsimp only
    rcases performed : perform s time a c with ⟨result, lines⟩
    have way := perform_cases configured clear
    rw [performed] at way
    rcases way with ⟨stage, fault, first, failed⟩ | ⟨context, entries, passes, printed⟩
    · cases failed
      exact .complained first _ _
    · cases printed
      rw [results_of_readContext passes.read]
      exact .printed passes _

end Command

end Findings
