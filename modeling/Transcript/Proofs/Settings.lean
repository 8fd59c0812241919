import Transcript.Proofs.Message.Normal
import Transcript.Recorder

/-! Where a connection string comes from. Of the variables that may hold it the settings take the
first that is set at all, and only the resolution asks whether a text is blank; so a blank variable
hides a usable one behind it, and nothing else does. -/

namespace Transcript

namespace Settings

variable {environment : List (String × String)} {given : List (Value × Value)}
variable {settings : Settings}

/-- The text of an environment variable, whatever the case of its name. -/
def environmentText? (environment : List (String × String)) (name : String) : Option String :=
  (environment.reverse.find? fun entry => entry.1.toLower == name.toLower).map (·.2)

theorem environmentValue?_eq (environment : List (String × String)) (name : String) :
    environmentValue? environment name = (environmentText? environment name).map .str := by
  simp [environmentValue?, environmentText?, Function.comp_def]

theorem source?_eq (environment : List (String × String)) (name : String) :
    source? environment [] name = (environmentText? environment (variableName name)).map .str := by
  simp [source?, Value.lookup?, environmentValue?_eq]

theorem environmentText?_eq (environment : List (String × String)) (name : String) :
    environmentText? environment name = (environment.reverse.find? fun entry =>
      entry.1.toList.map Char.toLower == name.toList.map Char.toLower).map (·.2) := by
  have letters (left right : String) : (left.toLower == right.toLower) =
      (left.toList.map Char.toLower == right.toList.map Char.toLower) := by
    rw [Bool.eq_iff_iff, beq_iff_eq, beq_iff_eq, ← String.toList_inj]
    simp only [String.toLower, String.toList_map]
  simp only [environmentText?, letters]

/-- The first variable that is set says what the connection string is set to, whatever it holds. -/
theorem dsnSource?_eq (environment : List (String × String)) :
    dsnSource? environment [] = (firstOf (environmentText? environment) dsnNames).map .str := by
  have texts : environmentValue? environment =
      fun name => (environmentText? environment name).map .str :=
    funext (environmentValue?_eq environment)
  rw [dsnSource?, texts]
  exact List.map_findSome?.symm

/-- What some settings were read as. -/
structure ReadFrom (environment : List (String × String)) (given : List (Value × Value))
    (settings : Settings) : Prop where
  dsn : field (dsnSource? environment given) "RECORDER_POSTGRES_DSN" none
    (Validation.nullable Validation.text) = .valid settings.postgresDsn
  workers : field (source? environment given "persist_workers") "persist_workers" 2 count =
    .valid settings.workers
  queueSize : field (source? environment given "persist_queue_size") "persist_queue_size" 1000
    count = .valid settings.queueSize

theorem readFrom_of_load (valid : load environment given = .valid settings) :
    ReadFrom environment given settings := by
  obtain ⟨_, _, toTimeout, _, rfl⟩ := Checked.valid_of_seq valid
  obtain ⟨_, _, toPolicy, _, rfl⟩ := Checked.valid_of_seq toTimeout
  obtain ⟨_, _, toQueue, _, rfl⟩ := Checked.valid_of_seq toPolicy
  obtain ⟨_, _, toWorkers, queueSize, rfl⟩ := Checked.valid_of_seq toQueue
  obtain ⟨_, _, toAcquire, workers, rfl⟩ := Checked.valid_of_seq toWorkers
  obtain ⟨_, _, toConnections, _, rfl⟩ := Checked.valid_of_seq toAcquire
  obtain ⟨_, _, toSchema, _, rfl⟩ := Checked.valid_of_seq toConnections
  obtain ⟨_, _, toDsn, _, rfl⟩ := Checked.valid_of_seq toSchema
  obtain ⟨_, _, toStorage, dsn, rfl⟩ := Checked.valid_of_seq toDsn
  obtain ⟨_, _, toFile, _, rfl⟩ := Checked.valid_of_seq toStorage
  obtain ⟨_, _, toLevel, _, rfl⟩ := Checked.valid_of_seq toFile
  obtain ⟨_, _, toName, _, rfl⟩ := Checked.valid_of_seq toLevel
  obtain ⟨_, _, rfl⟩ := Checked.valid_of_map toName
  exact ⟨dsn, workers, queueSize⟩

/-- Settings of an environment hold the text of the first variable that is set. -/
theorem postgresDsn_of_load (valid : load environment [] = .valid settings) :
    settings.postgresDsn = firstOf (environmentText? environment) dsnNames := by
  have read := (readFrom_of_load valid).dsn
  rw [dsnSource?_eq] at read
  cases found : firstOf (environmentText? environment) dsnNames with
  | none =>
    rw [found] at read
    exact (Checked.valid.inj read).symm
  | some text =>
    rw [found] at read
    exact (Checked.valid.inj read).symm

/-- The fields that have a variable of their own name. -/
def ownNames : List String :=
  ["app_name", "log_level", "log_file_path", "enable_storage", "postgres_schema",
    "postgres_max_connections", "postgres_acquire_timeout_seconds", "persist_workers",
    "persist_queue_size", "shutdown_policy", "shutdown_timeout_seconds", "agent_name"]

/-- An environment that sets nothing but the connection string makes settings. -/
theorem load_of_unset
    (unset : ∀ name ∈ ownNames, environmentText? environment (variableName name) = none) :
    load environment [] = .valid
      { postgresDsn := firstOf (environmentText? environment) dsnNames } := by
  simp only [ownNames, List.forall_mem_cons, List.not_mem_nil, false_imp_iff, implies_true,
    and_true] at unset
  obtain ⟨app, level, file, storage, schema, connections, acquire, workers, queue, policy, timeout,
    agent⟩ := unset
  simp only [load, source?_eq, dsnSource?_eq, app, level, file, storage, schema, connections,
    acquire, workers, queue, policy, timeout, agent]
  cases firstOf (environmentText? environment) dsnNames <;> rfl

end Settings

/-- A text that is there and not blank. -/
def usable (text : Option String) : Option String := text.filter fun text => !Text.isBlankText text

/-- The first text that is there and not blank. -/
def firstUsable (places : List (Option String)) : Option String := places.findSome? usable

theorem usable_eq_some {place : Option String} {text : String} :
    usable place = some text ↔ place = some text ∧ Text.isBlankText text = false := by
  simp [usable, Option.filter_eq_some_iff]

@[simp] theorem usable_defaultConnection :
    usable (some defaultConnection) = some defaultConnection := rfl

@[simp] theorem firstUsable_cons (place : Option String) (places : List (Option String)) :
    firstUsable (place :: places) = (usable place).or (firstUsable places) := by
  simp [firstUsable, List.findSome?_cons]
  cases usable place <;> rfl

theorem firstUsable_eq_some {places : List (Option String)} {text : String}
    (found : firstUsable places = some text) :
    some text ∈ places ∧ Text.isBlankText text = false := by
  obtain ⟨place, member, chosen⟩ := List.exists_of_findSome?_eq_some found
  obtain ⟨rfl, written⟩ := usable_eq_some.mp chosen
  exact ⟨member, written⟩

/-- What is resolved is the first usable one of three texts. -/
theorem resolveConnection_eq (configured fromSettings : Option String) :
    firstUsable [configured, fromSettings, some defaultConnection] =
      some (resolveConnection configured fromSettings) := by
  change _ = some (((usable configured).or (usable fromSettings)).getD defaultConnection)
  simp only [firstUsable_cons, usable_defaultConnection]
  cases usable configured <;> cases usable fromSettings <;> rfl

/-- The places that a connection string may come from, the preferred one first. -/
def connectionPlaces (config : RecorderConfig) (environment : List (String × String)) :
    List (Option String) :=
  config.connection :: Settings.dsnNames.map (Settings.environmentText? environment) ++
    [some defaultConnection]

theorem connectionPlaces_eq (config : RecorderConfig) (environment : List (String × String)) :
    connectionPlaces config environment =
      [config.connection, Settings.environmentText? environment "RECORDER_POSTGRES_DSN",
        Settings.environmentText? environment "LLM_POSTGRES_URL", some defaultConnection] := rfl

/-- Nothing usable is configured, and a blank text stands before a usable one. -/
structure Hides (configured preferred other : Option String) : Prop where
  unconfigured : usable configured = none
  set : preferred ≠ none
  blank : usable preferred = none
  behind : ∃ hidden, usable other = some hidden ∧ hidden ≠ defaultConnection

/-- Where a blank text hides a usable one, the default is resolved. -/
theorem resolveConnection_of_hides {configured preferred other : Option String}
    (hides : Hides configured preferred other) :
    resolveConnection configured (preferred.or other) = defaultConnection := by
  have first : preferred.or other = preferred := by
    obtain ⟨text, rfl⟩ := Option.ne_none_iff_exists'.mp hides.set
    rfl
  have resolved := resolveConnection_eq configured preferred
  rw [firstUsable_cons, firstUsable_cons, hides.unconfigured, hides.blank] at resolved
  rw [first]
  exact (Option.some.inj resolved).symm

/-- Of two texts behind each other the first one that is there counts; what is resolved is the first
usable one unless a blank text hides that. -/
theorem firstUsable_eq_resolved_iff (configured preferred other : Option String) :
    firstUsable [configured, preferred, other, some defaultConnection] =
        some (resolveConnection configured (preferred.or other)) ↔
      ¬ Hides configured preferred other := by
  constructor
  · intro first hides
    obtain ⟨hidden, found, different⟩ := hides.behind
    simp [resolveConnection_of_hides hides, hides.unconfigured, hides.blank, found] at first
    exact different first
  · intro shown
    rw [← resolveConnection_eq]
    cases given : usable configured with
    | some text => simp [given]
    | none =>
      cases preferred with
      | none => simp [usable]
      | some text =>
        cases written : usable (some text) with
        | some found => simp [written]
        | none =>
          cases behind : usable other with
          | none => simp [given, written, behind]
          | some hidden =>
            have same : hidden = defaultConnection := by
              by_contra different
              exact shown ⟨given, nofun, written, hidden, behind, different⟩
            simp [given, written, behind, same]

/-- What is resolved stands in one of the places, and is not blank. -/
theorem resolved_mem (configured preferred other : Option String) :
    let resolved := resolveConnection configured (preferred.or other)
    some resolved ∈ [configured, preferred, other, some defaultConnection] ∧
      Text.isBlankText resolved = false := by
  intro resolved
  obtain ⟨member, written⟩ :=
    firstUsable_eq_some (resolveConnection_eq configured (preferred.or other))
  refine ⟨?_, written⟩
  have contained : [configured, preferred.or other, some defaultConnection] ⊆
      [configured, preferred, other, some defaultConnection] := by
    cases preferred <;> simp
  exact contained member

theorem Settings.firstOf_dsnNames (look : String → Option String) :
    firstOf look dsnNames = (look "RECORDER_POSTGRES_DSN").or (look "LLM_POSTGRES_URL") := by
  simp only [firstOf, dsnNames, List.findSome?_cons, List.findSome?_nil]
  cases look "RECORDER_POSTGRES_DSN" <;> cases look "LLM_POSTGRES_URL" <;> rfl

/-- Under the settings of an environment a recorder resolves the first usable one of what is
configured, the two variables and the default, unless a blank variable hides a usable one; then it
falls back to the default. In any case it takes a text as it stands, and no blank one. -/
theorem resolves_first_usable_iff {environment : List (String × String)} {settings : Settings}
    (loaded : Settings.load environment [] = .valid settings) (config : RecorderConfig) :
    let places := connectionPlaces config environment
    let resolved := resolveConnection config.connection settings.postgresDsn
    let hides := Hides config.connection
      (Settings.environmentText? environment "RECORDER_POSTGRES_DSN")
      (Settings.environmentText? environment "LLM_POSTGRES_URL")
    (firstUsable places = some resolved ↔ ¬ hides) ∧ (hides → resolved = defaultConnection) ∧
      some resolved ∈ places ∧ Text.isBlankText resolved = false := by
  rw [Settings.postgresDsn_of_load loaded, Settings.firstOf_dsnNames]
  exact ⟨firstUsable_eq_resolved_iff _ _ _, resolveConnection_of_hides, resolved_mem _ _ _⟩

/-- A blank configuration and a variable in another spelling, before a second one. -/
theorem resolves_first_usable_iff_spelled :
    let environment := [("LLM_POSTGRES_URL", "two"), ("recorder_postgres_dsn", "one")]
    Settings.load environment [] = .valid { postgresDsn := some "one" } ∧
      firstUsable (connectionPlaces { connection := some " " } environment) =
        some (resolveConnection (some " ") (some "one")) := by
  intro environment
  have preferred : Settings.environmentText? environment "RECORDER_POSTGRES_DSN" = some "one" := by
    rw [Settings.environmentText?_eq]
    decide +kernel
  have loaded : Settings.load environment [] = .valid { postgresDsn := some "one" } := by
    rw [Settings.load_of_unset, Settings.firstOf_dsnNames, preferred, Option.some_or]
    simp only [Settings.environmentText?_eq]
    decide +kernel
  obtain ⟨first, _⟩ := resolves_first_usable_iff loaded { connection := some " " }
  refine ⟨loaded, first.mpr fun hides => ?_⟩
  have blank := hides.blank
  rw [preferred] at blank
  cases blank

/-- A variable of two blanks hides the one behind it, and the default is resolved. -/
theorem blank_variable_hides_connection :
    let environment := [("RECORDER_POSTGRES_DSN", "  "), ("LLM_POSTGRES_URL", "two")]
    Settings.load environment [] = .valid { postgresDsn := some "  " } ∧
      resolveConnection none (some "  ") = defaultConnection ∧
      firstUsable (connectionPlaces {} environment) = some "two" := by
  intro environment
  have preferred : Settings.environmentText? environment "RECORDER_POSTGRES_DSN" = some "  " := by
    rw [Settings.environmentText?_eq]
    decide +kernel
  have other : Settings.environmentText? environment "LLM_POSTGRES_URL" = some "two" := by
    rw [Settings.environmentText?_eq]
    decide +kernel
  refine ⟨?_, rfl, ?_⟩
  · rw [Settings.load_of_unset, Settings.firstOf_dsnNames, preferred, Option.some_or]
    simp only [Settings.environmentText?_eq]
    decide +kernel
  · rw [connectionPlaces_eq, preferred, other]
    decide +kernel

end Transcript
