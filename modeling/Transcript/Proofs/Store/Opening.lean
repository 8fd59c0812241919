import Mathlib.Tactic.ByContra
import Mathlib.Tactic.SplitIfs
import Transcript.Proofs.Pool.Lanes
import Transcript.Store.Depot

namespace Transcript

namespace Store

/-- The database reports what fails: nothing crashes. -/
structure Response.Reports (response : Response) : Prop where
  opening : ∀ breakdown, response.opening = .error breakdown → breakdown.outage ≠ .crash
  schema : ∀ statements breakdown,
    (response.prepare statements).1 = .error breakdown → breakdown.outage ≠ .crash

namespace Database

theorem outage_of_check {database : Database} {site : Site} {breakdown : Breakdown}
    (failed : database.check site = .error breakdown) :
    database.outages.lookup breakdown.site = some breakdown.outage := by
  unfold check at failed
  split at failed
  · rename_i outage found
    cases failed
    exact found
  · cases failed

/-- Statements fail by an outage, and change none. -/
theorem defineAll_outages (statements : List String) (database : Database) :
    (database.defineAll statements).2.outages = database.outages ∧
      ∀ breakdown, (database.defineAll statements).1 = .error breakdown →
        database.outages.lookup breakdown.site = some breakdown.outage := by
  induction statements generalizing database with
  | nil => exact ⟨rfl, nofun⟩
  | cons sql rest ih =>
    simp only [defineAll, define]
    cases checked : (database.arrive ⟨sql, []⟩).check .schema with
    | error breakdown =>
      refine ⟨rfl, fun other same => ?_⟩
      cases same
      exact outage_of_check checked
    | ok => exact ih (database.arrive ⟨sql, []⟩)

theorem outage_of_prepare {statements : List String} {database : Database} {breakdown : Breakdown}
    (failed : (database.prepare statements).1 = .error breakdown) :
    database.outages.lookup breakdown.site = some breakdown.outage := by
  obtain ⟨same, outages⟩ := defineAll_outages statements database
  unfold prepare at failed
  cases taken : database.check .connection with
  | error other =>
    rw [taken] at failed
    cases failed
    exact outage_of_check taken
  | ok =>
    rcases defined : database.defineAll statements with ⟨outcome, after⟩
    rw [defined] at same outages
    cases outcome with
    | error other =>
      simp only [taken, defined] at failed
      cases failed
      exact outages breakdown rfl
    | ok =>
      simp only [taken, defined, commit] at failed
      cases committed : after.check .commit with
      | error other =>
        rw [committed] at failed
        cases failed
        exact same ▸ outage_of_check committed
      | ok =>
        rw [committed] at failed
        cases failed

theorem response_reports {database : Database}
    (reported : ∀ site, database.outages.lookup site ≠ some .crash) :
    database.response.Reports where
  opening breakdown failed crash := reported breakdown.site (crash ▸ outage_of_check failed)
  schema _ breakdown failed crash :=
    reported breakdown.site (crash ▸ outage_of_prepare failed)

end Database

/-- Nothing stands in the way of a store until its workers are made. -/
structure Response.Admits (response : Response) (options : Options) : Prop where
  sound : options.fault? = none
  opens : response.opening = .ok ()
  prepares : (response.prepare (schemaStatements options.schema)).1 = .ok ()

/-- A worker is asked for, and room for a batch. -/
def Options.IsStaffed (options : Options) : Prop := 1 ≤ options.workers ∧ 1 ≤ options.queueSize

/-- What opening a store makes of a depot, if it makes all of it or nothing. -/
inductive AllOrNothing (before : Depot) : Except OpenFault Nat → Depot → Prop where
  /-- The store is there: its connections are open, and its workers take batches. -/
  | opened {after : Depot} {made : Connections} {store : Store}
      (connected : after.connections = before.connections ++ [made])
      (stays : made.opened = true ∧ made.closings = 0)
      (added : after.stores = before.stores ++ [store])
      (own : store.connections = before.connections.length)
      (serves : store.pool.closed = false) :
      AllOrNothing before (.ok before.stores.length) after
  /-- Bad options are refused before anything is opened. -/
  | refused {fault : OpenFault} (config : fault.kind? = some .storeConfig) :
      AllOrNothing before (.error fault) before
  /-- The connections of a store that failed are closed, and it has no workers. -/
  | failed {fault : OpenFault} {after : Depot} {made : Connections}
      (unavailable : fault.kind? = some .storeUnavailable)
      (connected : after.connections = before.connections ++ [made])
      (closed : made.closings = 1)
      (added : after.stores = before.stores) :
      AllOrNothing before (.error fault) after

theorem Options.kind?_fault? {options : Options} {fault : OpenFault}
    (faulty : options.fault? = some fault) : fault.kind? = some .storeConfig := by
  unfold fault? at faulty
  split_ifs at faulty
  · cases faulty
    rfl
  · cases faulty
    rfl
  · split at faulty <;> cases faulty
    rfl

namespace Depot

variable {response : Response} {options : Options} {office : Office Depot}

def asked (options : Options) : Connections :=
  { dsn := options.dsn, maximum := options.maxConnections, timeout := options.acquireTimeout,
    opened := true }

theorem connect_eq (response : Response) (options : Options) (office : Office Depot) :
    ∃ after, connect response options (office.note (.connecting options.schema)) =
        (response.opening, after) ∧
      after.store.connections = office.store.connections ++ [asked options] ∧
      after.store.stores = office.store.stores :=
  ⟨_, rfl, rfl, rfl⟩

theorem defineSchema_eq (response : Response) (schema : String) (office : Office Depot) :
    ∃ after, defineSchema response schema office =
        ((response.prepare (schemaStatements schema)).1, after) ∧
      after.store.connections = office.store.connections ∧
      after.store.stores = office.store.stores :=
  ⟨_, rfl, rfl, rfl⟩

/-- The connections that were made last are closed when a store is given up after a failure that
was reported. -/
theorem giveUp_reported {before : List Connections} {made : Connections} {breakdown : Breakdown}
    (connected : office.store.connections = before ++ [made])
    (reported : breakdown.outage ≠ .crash) (fault : Breakdown → OpenFault)
    (notice : String → Notice) :
    ∃ after, giveUp before.length breakdown fault notice office = (fault breakdown, after) ∧
      after.store.connections = before ++ [{ made with closings := made.closings + 1 }] ∧
      after.store.stores = office.store.stores := by
  refine ⟨_, if_neg reported, ?_, rfl⟩
  simp [Office.note, disconnect, connected, List.modify_eq_take_drop, List.modifyHead]

theorem openWith_of_fault {fault : OpenFault} (faulty : options.fault? = some fault) :
    openWith response options office = (.error fault, office) := by
  simp only [openWith, faulty]

section Sound

variable (sound : options.fault? = none)
include sound

theorem openWith_of_opening {breakdown : Breakdown} (reports : response.Reports)
    (refuses : response.opening = .error breakdown) :
    ∃ after, openWith response options office = (.error (.notConnected breakdown), after) ∧
      AllOrNothing office.store (.error (.notConnected breakdown)) after.store := by
  obtain ⟨middle, connected, made, before⟩ := connect_eq response options office
  rw [refuses] at connected
  obtain ⟨after, gaveUp, closed, stores⟩ := giveUp_reported made (reports.opening _ refuses)
    .notConnected .notConnected
  refine ⟨after, ?_, .failed rfl closed rfl (stores.trans before)⟩
  simp only [openWith, sound, connected, gaveUp]

theorem openWith_of_schema {breakdown : Breakdown} (reports : response.Reports)
    (opens : response.opening = .ok ())
    (refuses : (response.prepare (schemaStatements options.schema)).1 = .error breakdown) :
    ∃ after, openWith response options office = (.error (.schemaFailed breakdown), after) ∧
      AllOrNothing office.store (.error (.schemaFailed breakdown)) after.store := by
  obtain ⟨middle, connected, made, before⟩ := connect_eq response options office
  rw [opens] at connected
  obtain ⟨later, defined, same, others⟩ := defineSchema_eq response options.schema middle
  rw [refuses] at defined
  obtain ⟨after, gaveUp, closed, stores⟩ := giveUp_reported (same.trans made)
    (reports.schema _ _ refuses) .schemaFailed .schemaFailed
  refine ⟨after, ?_, .failed rfl closed rfl ((stores.trans others).trans before)⟩
  simp only [openWith, sound, connected, defined, gaveUp]

end Sound

/-- Where nothing stands in the way, everything is left to the workers. -/
theorem openWith_of_admits (office : Office Depot) (admits : response.Admits options) :
    ∃ ready : Office Depot, openWith response options office =
        addStore options office.store.connections.length ready ∧
      ready.store.connections = office.store.connections ++ [asked options] ∧
      ready.store.stores = office.store.stores := by
  obtain ⟨sound, opens, prepares⟩ := admits
  obtain ⟨middle, connected, made, before⟩ := connect_eq response options office
  rw [opens] at connected
  obtain ⟨later, defined, same, others⟩ := defineSchema_eq response options.schema middle
  rw [prepares] at defined
  refine ⟨noteReady options later, ?_, same.trans made, others.trans before⟩
  simp only [openWith, sound, connected, defined]

theorem addStore_staffed (office : Office Depot) (staffed : options.IsStaffed)
    (connections : Nat) : ∃ (store : Store) (after : Office Depot),
      addStore options connections office = (.ok office.store.stores.length, after) ∧
      after.store.connections = office.store.connections ∧
      after.store.stores = office.store.stores ++ [store] ∧
      store.connections = connections ∧ store.pool.closed = false := by
  unfold addStore
  rw [Pool.create_eq_ok_iff.mpr ⟨staffed.1, staffed.2, rfl⟩]
  exact ⟨_, _, rfl, rfl, rfl, rfl, rfl⟩

theorem addStore_unstaffed (office : Office Depot) (few : ¬ options.IsStaffed)
    (connections : Nat) :
    ∃ fault, addStore options connections office = (.error (.pool fault), office) := by
  unfold addStore
  split
  · exact ⟨_, rfl⟩
  · rename_i created
    obtain ⟨workers, room, _⟩ := Pool.create_eq_ok_iff.mp created
    exact absurd ⟨workers, room⟩ few

theorem not_allOrNothing_pool {before after : Depot} {fault : PoolFault} :
    ¬ AllOrNothing before (.error (.pool fault)) after := by
  intro all
  cases all with
  | refused config => cases config
  | failed unavailable => cases unavailable

theorem allOrNothing_of_stopped (office : Office Depot) (reports : response.Reports)
    (stopped : ¬ response.Admits options) :
    ∃ fault after, openWith response options office = (.error fault, after) ∧
      fault.kind?.isSome = true ∧ AllOrNothing office.store (.error fault) after.store := by
  cases faulty : options.fault? with
  | some fault =>
    have config := Options.kind?_fault? faulty
    exact ⟨fault, office, openWith_of_fault faulty, by rw [config]; rfl, .refused config⟩
  | none =>
    cases opens : response.opening with
    | error breakdown =>
      obtain ⟨after, failed, nothing⟩ := openWith_of_opening faulty reports opens
      exact ⟨_, after, failed, rfl, nothing⟩
    | ok =>
      cases prepares : (response.prepare (schemaStatements options.schema)).1 with
      | error breakdown =>
        obtain ⟨after, failed, nothing⟩ := openWith_of_schema faulty reports opens prepares
        exact ⟨_, after, failed, rfl, nothing⟩
      | ok => exact absurd ⟨faulty, opens, prepares⟩ stopped

theorem allOrNothing_of_staffed (office : Office Depot) (admits : response.Admits options)
    (staffed : options.IsStaffed) :
    ∃ index after, openWith response options office = (.ok index, after) ∧
      AllOrNothing office.store (.ok index) after.store := by
  obtain ⟨ready, opened, connections, stores⟩ := openWith_of_admits office admits
  obtain ⟨store, after, added, connected, more, own, serves⟩ :=
    addStore_staffed ready staffed office.store.connections.length
  rw [stores] at added more
  rw [connections] at connected
  exact ⟨_, after, opened.trans added, .opened connected ⟨rfl, rfl⟩ more own serves⟩

/-- What is asked of the workers is found out too late. -/
theorem openWith_of_unstaffed (office : Office Depot) (admits : response.Admits options)
    (few : ¬ options.IsStaffed) :
    ∃ fault after, openWith response options office = (.error (.pool fault), after) ∧
      after.store.connections = office.store.connections ++ [asked options] := by
  obtain ⟨ready, opened, connections, stores⟩ := openWith_of_admits office admits
  obtain ⟨fault, refused⟩ := addStore_unstaffed ready few office.store.connections.length
  exact ⟨fault, ready, opened.trans refused, connections⟩

theorem allOrNothing_iff (reports : response.Reports) :
    AllOrNothing office.store (openWith response options office).1
      (openWith response options office).2.store ↔
    (response.Admits options → options.IsStaffed) := by
  constructor
  · intro all admits
    by_contra few
    obtain ⟨fault, after, failed, _⟩ := openWith_of_unstaffed office admits few
    rw [failed] at all
    exact not_allOrNothing_pool all
  · intro holds
    by_cases admits : response.Admits options
    · obtain ⟨index, after, opened, all⟩ :=
        allOrNothing_of_staffed office admits (holds admits)
      rwa [opened]
    · obtain ⟨fault, after, failed, _, all⟩ := allOrNothing_of_stopped office reports admits
      rwa [failed]

end Depot

end Store

end Transcript
