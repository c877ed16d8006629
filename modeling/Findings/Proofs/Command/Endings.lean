import Findings.Proofs.Command.Complaints
import Findings.Proofs.Context.Depth
import Findings.Proofs.Json.Printing
import Findings.Proofs.Run.Origins

/-!
How the command ends. Either all of its stages pass, and then what is printed is read as one array
of the entries and nothing else; or a stage fails, and then nothing is printed and the words for the
first that does are all that is complained of (`Command.execute_ends_at_first_failing_stage`).
-/

namespace Findings

/-! ## What is printed -/

theorem Entry.lookup_id (e : Entry) : e.members.lookup "id" = some (.string e.id) := by
  have field : e.fieldMembers.lookup "id" = some (.string e.id) := e.lookup_fieldMembers "id"
  rw [members, List.lookup_append, field, Option.some_or]

theorem Report.value_eq_array (entries : List Entry) :
    Report.value entries = .array ((entries.map Entry.members).map .object) := by
  rw [List.map_map]
  rfl

/-- A synthesis that succeeds has for each candidate one object, found by its identifier. -/
theorem objects_of_synthesize {c : Context} {f : Feed} {clock : Clock} {entries : List Entry}
    (succeeded : (c.synthesize f clock).result = .ok entries) :
    (entries.map Entry.members).map (·.lookup "id") =
        c.elements.keys.map (fun id => some (.string id)) ∧
      ∀ object ∈ entries.map Entry.members, (object.map Prod.fst).Nodup := by
  have course := synthesize_course c f clock
  constructor
  · rw [← (course.context_eq_of_ok succeeded).2, List.map_map, List.map_map]
    exact List.map_congr_left fun entry _ => entry.lookup_id
  · intro object member
    obtain ⟨entry, found, rfl⟩ := List.mem_map.mp member
    exact Entry.nodup_keys_members (course.apart_of_ok succeeded entry found)

namespace Command

variable {s : Surroundings} {time : String} {a : Arguments} {c : Config} {context : Context}
  {entries : List Entry}

/-- The entries of a run that passes are not too deep to be read again. -/
theorem Passes.height_lt (passes : Passes s time a c context entries) :
    (Report.value entries).height < Json.nestingLimit := by
  obtain ⟨text, parsed⟩ := exists_parse_of_readContext passes.read
  obtain ⟨path, feed, _, synthesized⟩ := passes.synthesized
  exact Context.height_entries_lt parsed synthesized

/-! ## The end of a run -/

/-- The entries a run comes to. -/
def entriesOf (s : Surroundings) (time : String) (a : Arguments) : Option (List Entry) := do
  let c ← (configure s a).toOption
  let context ← (readContext s a.context).toOption
  let (_, feed) ← (openFeed s c).toOption
  (context.synthesize feed (.still time)).result.toOption

/-- A run that passes comes to its entries. -/
theorem Passes.entriesOf_eq (passes : Passes s time a c context entries) :
    entriesOf s time a = some entries := by
  obtain ⟨configured, read, path, feed, opened, synthesized⟩ := passes
  rw [entriesOf, configured, read]
  simp [Except.toOption, opened, synthesized]

/-- A variable is set to what is no switch, and there is no context either. -/
def muddled : Surroundings where
  contents := fun _ => .absent
  database := fun _ => .absent
  defaultConfig := some "config.toml"
  environment := fun name => [("VDS_FEED_CACHE", "maybe")].lookup name
  input := []

/-- Nothing is asked for but the context. -/
def bare : Arguments := { context := "context.json" }

/-- Why the context of a muddled run is not read. -/
def contextGone : Fault :=
  .error (.io "No such file or directory (os error 2)" (some "context.json"))

theorem fails_muddled :
    FailsFirst muddled "now" bare .environment
        (.error (.config (.invalid "VDS_FEED_CACHE" "maybe"))) ∧
      ∃ other, Fails muddled "now" bare .context other := by
  have unread : (Config.merge muddled.environment {}).2 =
      .error (.invalid "VDS_FEED_CACHE" "maybe") := by decide +kernel
  have loaded : load muddled bare = .ok {} := rfl
  have start : Clear muddled "now" bare Stage.configuration.rank := clear_zero
  have clear : Clear muddled "now" bare Stage.environment.rank := start.succ fun fault fails => by
    cases fails with
    | configuration unread => cases loaded.symm.trans unread
  have missing : readText muddled bare.context = .error contextGone := by decide +kernel
  have unread' : readContext muddled bare.context = .error contextGone := by
    rw [readContext, missing]
    rfl
  exact ⟨⟨.environment unread, clear⟩, contextGone, .context unread'⟩

/-- A context names two candidates, the greater of them first, and a database describes them. -/
def reporting : Surroundings where
  contents := fun path =>
    if path = "context.json" then
      .bytes (Utf8.bytes
        "\x7b\"type\": \"os\", \"elements\": \x7b\"CVE-2\": null, \"CVE-1\": null\x7d\x7d")
    else .absent
  database := fun _ => .opened {
    backing := .database
    rows := .ofList ([("CVE-1", "high", 0x40FCCCCD), ("CVE-2", "low", 0x40400000)].map
      fun (id, word, bits) => (id, (Record.encode {
        classification := some "c", description := some "d", reference := some "r",
        datePublished := some "p", scoreVersion := some "3.1", score := ⟨bits⟩,
        severity := some word }).toOption.getD [])) }
  defaultConfig := some "config.toml"
  environment := fun _ => none
  input := []

/-- A database is asked for as well. -/
def fed : Arguments := { feed := some "feed.db", context := "context.json" }

/-- The lines of an entry in what is printed. -/
def printedLines (id severity score : String) : List String := [
  "    \"category\": \"OS\",",
  "    \"classification\": \"c\",",
  "    \"description\": \"d\",",
  "    \"detected_at\": \"now\",",
  "    \"enumeration\": \"CVE\",",
  "    \"id\": \"" ++ id ++ "\",",
  "    \"published_at\": \"p\",",
  "    \"reference\": \"r\",",
  "    \"score\": \x7b",
  "      \"base\": " ++ score ++ ",",
  "      \"version\": \"3.1\"",
  "    \x7d,",
  "    \"severity\": \"" ++ severity ++ "\",",
  "    \"cvss\": \x7b",
  "      \"cvss3\": \x7b",
  "        \"vector\": \x7b\x7d",
  "      \x7d",
  "    \x7d"]

/-- The lines of two entries. -/
def printed : List String :=
  ["[", "  \x7b"] ++ printedLines "CVE-1" "High" "7.9" ++ ["  \x7d,", "  \x7b"] ++
    printedLines "CVE-2" "Low" "3.0" ++ ["  \x7d", "]", ""]

/-- The entries of a reporting run are printed as these lines, and their numbers are read back. -/
theorem entriesOf_reporting {entries : List Entry}
    (reported : entriesOf reporting "now" fed = some entries) :
    (Report.value entries).pretty ++ "\n" = "\n".intercalate printed ∧
      (Report.value entries).Legible 0 := by
  constructor
  · have spelled : (entriesOf reporting "now" fed).map
        (fun entries => (Report.value entries).prettyText 0 ++ ['\n']) =
          some (['\n'].intercalate (printed.map String.toList)) := by decide +kernel
    rw [reported] at spelled
    apply String.toList_inj.mp
    rw [String.toList_intercalate, String.toList_append, Json.pretty, String.toList_ofList]
    exact Option.some.inj spelled
  · have checked : (entriesOf reporting "now" fed).map
        (List.all · fun e =>
          decide (Json.Number.float e.score.base).ReadsBack && e.remarks.entries.isEmpty) =
            some true := by decide +kernel
    rw [reported] at checked
    have each : ∀ e ∈ entries, e.toJson.Legible 1 := by
      intro e member
      have sound := List.all_eq_true.mp (Option.some.inj checked) e member
      rw [Bool.and_eq_true, decide_eq_true_eq, List.isEmpty_iff] at sound
      refine Entry.legible_toJson (by decide) sound.1 ?_
      rw [sound.2]
      exact fun _ member => nomatch member
    exact ⟨by decide, Json.legibleItems_iff.mpr (List.forall_mem_map.mpr each)⟩

/-- Without a place for the configuration its stage fails, before the environment and the
context. -/
example : (execute { muddled with defaultConfig := none } "now" ["context.json"]).complaint =
    some ("Error: config file not found: config directory\n" ++
      "  Code: config.not_found\n" ++
      "  Hint: Pass --config with an existing file or omit it.") := by
  decide +kernel

end Command

end Findings
