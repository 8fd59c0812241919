import Transcript.Proofs.Settings
import Transcript.Proofs.Store.Opening

/-! Setting a recorder up. Settings that pass their checks ask for workers with room, so a recorder
comes about under them whatever the database does; it is without a store exactly when none is wanted
or none could be opened. -/

namespace Transcript

open Store

namespace Settings

theorem one_le_of_count {input : Value} {number : Int} (valid : count input = .valid number) :
    1 ≤ number := by
  obtain ⟨given, _, checked⟩ := Checked.valid_of_andThen valid
  split_ifs at checked with enough
  · cases checked
    exact enough
  · cases checked

theorem one_le_of_field {source : Option Value} {name : String} {absent number : Int}
    (default : 1 ≤ absent) (valid : field source name absent count = .valid number) :
    1 ≤ number := by
  cases source with
  | none =>
    cases valid
    exact default
  | some input => exact one_le_of_count (Checked.under_eq_valid.mp valid)

theorem counts_of_load {environment : List (String × String)} {given : List (Value × Value)}
    {settings : Settings} (valid : load environment given = .valid settings) :
    1 ≤ settings.workers ∧ 1 ≤ settings.queueSize := by
  have read := readFrom_of_load valid
  exact ⟨one_le_of_field (by decide) read.workers, one_le_of_field (by decide) read.queueSize⟩

end Settings

/-- The options of the store that a recorder is to have. -/
def RecorderConfig.options (config : RecorderConfig) (setup : Setup) : Options :=
  .ofSetup setup (resolveConnection config.connection setup.dsn) config.schema
    config.shutdownPolicy

namespace Recorder

variable {response : Response} {setup : Setup} {config : RecorderConfig} {office : Office Depot}

/-- A recorder comes about: without a store where none is wanted or none could be opened, and with
one otherwise. -/
def ComesAbout (response : Response) (setup : Setup) (config : RecorderConfig)
    (office : Office Depot) : Prop :=
  ∃ place, (startWith response setup config office).1 = .ok place ∧
    (place = .nowhere ↔ config.storage = false ∨
      ∃ fault, (Depot.openWith response (config.options setup) office).1 = .error fault)

theorem comesAbout_of_off (off : config.storage = false) :
    ComesAbout response setup config office := by
  refine ⟨.nowhere, ?_, iff_of_true rfl (.inl off)⟩
  simp only [startWith, off]
  rfl

section On

variable {after : Office Depot} (on : config.storage = true)
include on

theorem comesAbout_of_opened {index : Nat}
    (opened : Depot.openWith response (config.options setup) office = (.ok index, after)) :
    ComesAbout response setup config office := by
  refine ⟨.store index, ?_, iff_of_false nofun ?_⟩
  · unfold RecorderConfig.options at opened
    simp only [startWith, destinationWith, on, opened, if_true]
  · simp [on, opened]

theorem start_of_failed {fault : OpenFault}
    (failed : Depot.openWith response (config.options setup) office = (.error fault, after)) :
    (startWith response setup config office).1 =
      if fault.kind?.isSome then .ok .nowhere else .error fault := by
  unfold RecorderConfig.options at failed
  simp only [startWith, destinationWith, on, failed, if_true]
  cases fault.kind? <;> rfl

end On

/-- A recorder comes about unless its store would, but for its workers. -/
theorem comesAbout_iff (reports : response.Reports) :
    ComesAbout response setup config office ↔
      (config.storage = true → response.Admits (config.options setup) →
        (config.options setup).IsStaffed) := by
  constructor
  · rintro ⟨place, started, _⟩ on admits
    by_contra few
    obtain ⟨fault, after, failed, _⟩ := Depot.openWith_of_unstaffed office admits few
    rw [start_of_failed on failed] at started
    cases started
  · intro holds
    cases on : config.storage with
    | false => exact comesAbout_of_off on
    | true =>
      by_cases admits : response.Admits (config.options setup)
      · obtain ⟨index, after, opened, _⟩ :=
          Depot.allOrNothing_of_staffed office admits (holds on admits)
        exact comesAbout_of_opened on opened
      · obtain ⟨fault, after, failed, known, _⟩ :=
          Depot.allOrNothing_of_stopped office reports admits
        refine ⟨.nowhere, ?_, iff_of_true rfl (.inr ⟨fault, congrArg Prod.fst failed⟩)⟩
        rw [start_of_failed on failed, if_pos known]

end Recorder

/-- Whatever a database does while a store is opened, as long as it reports it: all or nothing comes
of it, unless the store asks for no worker or for no room and nothing else is in its way. With the
same exception a recorder comes about, and settings that pass their checks leave no room for it. -/
theorem construction_is_all_or_nothing {response : Response} (reports : response.Reports) :
    (∀ options office, AllOrNothing office.store (Depot.openWith response options office).1
        (Depot.openWith response options office).2.store ↔
      (response.Admits options → options.IsStaffed)) ∧
    (∀ setup config office, Recorder.ComesAbout response setup config office ↔
      (config.storage = true → response.Admits (config.options setup) →
        (config.options setup).IsStaffed)) ∧
    ∀ environment given settings, Settings.load environment given = .valid settings →
      ∀ config office, Recorder.ComesAbout response (.ofSettings settings) config office := by
  refine ⟨fun options office => Depot.allOrNothing_iff reports,
    fun setup config office => Recorder.comesAbout_iff reports, ?_⟩
  intro environment given settings loaded config office
  exact (Recorder.comesAbout_iff reports).mpr fun _ _ => Settings.counts_of_load loaded

/-- A database on which no commit goes through in time. -/
theorem construction_is_all_or_nothing_commit :
    let office : Office Depot := ⟨{}, { database := { outages := [(.commit, .timeout)] } }⟩
    let options : Options := { dsn := "postgresql://h/db" }
    AllOrNothing office.store (Depot.openStore options office).1
        (Depot.openStore options office).2.store ∧
      Recorder.ComesAbout office.store.database.response (.ofSettings {}) {} office := by
  intro office options
  have reports : office.store.database.response.Reports :=
    Database.response_reports fun site => by cases site <;> decide
  obtain ⟨opens, _, starts⟩ := construction_is_all_or_nothing reports
  have staffed : options.IsStaffed := by
    unfold Options.IsStaffed
    decide
  exact ⟨(opens options office).mpr fun _ => staffed, starts [] [] {} rfl {} office⟩

/-- A store without a worker is given up with its connections open, for a fault that no recorder
goes on after. -/
theorem unstaffed_store_leaves_connections :
    let opened := Depot.openStore { dsn := "postgresql://h/db", workers := 0 } ⟨{}, {}⟩
    ¬ AllOrNothing {} opened.1 opened.2.store ∧ opened.1 = .error (.pool .noWorkers) ∧
      opened.2.store.connections.map (fun made => (made.opened, made.closings)) = [(true, 0)] :=
  ⟨Depot.not_allOrNothing_pool, rfl, rfl⟩

end Transcript
