import Transcript.Proofs.Store.AtOnce
import Transcript.Proofs.Store.DocumentOrder
import Transcript.Proofs.Store.Fates
import Transcript.Proofs.Store.Turns
import Transcript.Store.Depot

/-! The accounts of a store. Every batch that was handed in is counted once, as written or as
dropped for a reason, or is still in hand; and the table has taken exactly those that are counted
as written and those whose write is about to be. -/

namespace Transcript.Store

open Pool (System Step Run Ticket)

variable {schema : String} {join : String → String → Option String}
variable {system next : System Writing Register}

/-- How the batch of a call is counted: by its write, or by the pool that drops it. -/
inductive Counted (system : System Writing Register) : Nat → Tally → Prop where
  | reported {report} (member : report ∈ system.office.store.reports) :
      Counted system report.write.number report.tally
  | refused {ticket refusal} (event : .refused ticket refusal ∈ system.log) :
      Counted system ticket.number (.dropped (Pool.Refusal.reason refusal) 1)
  | discarded {number lane} (event : .discarded number lane ∈ system.log) :
      Counted system number (.dropped Pool.abandonedReason 1)

/-- The batch of a call waits in a queue or is being written. -/
def InHand (system : System Writing Register) (number : Nat) : Prop :=
  system.Stands number .queued ∨ system.Stands number .running

/-- How the batch of a call that stands somewhere is counted there. -/
def CountedAs (system : System Writing Register) (number : Nat) (tally : Tally) :
    Pool.Standing → Prop
  | .ended => ∃ report ∈ system.office.store.reports,
    report.write.number = number ∧ report.tally = tally
  | .rejected => ∃ ticket refusal, .refused ticket refusal ∈ system.log ∧
    ticket.number = number ∧ .dropped (Pool.Refusal.reason refusal) 1 = tally
  | .discarded => .dropped Pool.abandonedReason 1 = tally
  | .queued | .running => False

def takeAll (join : String → String → Option String) (table : Table) (rows : List Row) :
    Option Table :=
  rows.foldlM (upsertWith join) table

/-- The accounts of a store that began with a table and a desk. -/
structure Accounted (join : String → String → Option String) (table : Table) (desk : Desk)
    (system : System Writing Register) : Prop where
  total : system.isQuiet → (system.issued : Int) =
    (system.office.desk.written - desk.written) +
      ((writeReasons ++ Pool.dropReasons).map fun reason =>
        system.office.desk.dropped reason - desk.dropped reason).sum + system.pool.load
  once : ∀ number < system.issued, (∃! tally, Counted system number tally) ↔ ¬ InHand system number
  written : ∀ number path, Counted system number (.written path) →
    system.office.store.ledger.numbers.count number = 1
  dropped : ∀ number reason count, Counted system number (.dropped reason count) →
    number ∉ system.office.store.ledger.numbers
  table : takeAll join table (system.office.store.ledger.written.map Write.row) =
    some system.office.store.ledger.table
  source : ∀ write ∈ system.office.store.ledger.written, write.ComesFrom system.log ∧
    (Counted system write.number (.written write.row.taskPath) ∨ InHand system write.number)
  returned : ∀ report ∈ system.office.store.reports,
    report.returned = true ↔ report.tally = .written report.write.row.taskPath
  paths : ∀ path, system.office.desk.writtenAs path = desk.writtenAs path +
    system.office.store.reports.countP fun report =>
      report.returned && report.write.row.taskPath == path
  failures : ∀ reason ∈ writeReasons, system.office.desk.dropped reason = desk.dropped reason +
    system.office.store.reports.countP fun report => report.reason? == some reason
  refusals : system.isQuiet → ∀ refusal, system.office.desk.dropped (Pool.Refusal.reason refusal) =
    desk.dropped refusal.reason + (Pool.refusedAs system.log refusal).length
  abandoned : system.isQuiet → system.office.desk.dropped Pool.abandonedReason =
    desk.dropped Pool.abandonedReason + (Pool.discarded system.log).length

theorem reported_eq_countP {adds : Notice → Int} {counts : Report → Bool}
    (same : ∀ report, adds report.tally.notice = if counts report = true then 1 else 0)
    (reports : List Report) : reported adds reports = reports.countP counts := by
  induction reports with
  | nil => rfl
  | cons report rest ih =>
    unfold reported at ih ⊢
    rw [List.map_cons, List.sum_cons, ih, same, List.countP_cons]
    by_cases counted : counts report = true
    · rw [if_pos counted, if_pos counted]
      omega
    · rw [if_neg counted, if_neg counted]
      omega

theorem length_reports (reports : List Report) : reports.length =
    (reports.countP fun report => report.reason?.isNone) +
      ((reports.countP fun report => report.reason? == some "pool_timeout") +
        reports.countP fun report => report.reason? == some "query_error") := by
  induction reports with
  | nil => rfl
  | cons report rest ih =>
    have known : report.reason? = none ∨ report.reason? = some "pool_timeout" ∨
        report.reason? = some "query_error" := by
      cases reason : report.reason? with
      | none => exact .inl rfl
      | some other => simpa [writeReasons] using Report.reason?_mem reason
    simp only [List.length_cons, List.countP_cons, ih]
    rcases known with reason | reason | reason <;> simp [reason] <;> omega

section Fresh

variable {name : String} {workers queueSize : Int} {spread : Value → Int}
variable {pool : Pool (Ticket Writing)} {table : Table} {desk : Desk}
variable (created : Pool.create name workers queueSize spread = .ok pool)
  (run : Run (reporting schema join) (.start pool { desk, store := { ledger := { table } } })
    system)
include run

theorem written_eq : system.office.desk.written =
    desk.written + system.office.store.reports.countP fun report => report.reason?.isNone := by
  rw [Desk.written_eq_sum, Desk.written_eq_sum, sum_eq_reported countsWrites_allWritten run]
  congr 1
  exact reported_eq_countP (fun report => by simp [Report.addsTo_written]) _

theorem dropped_eq {reason : String} (ofWrites : reason ∈ writeReasons) :
    system.office.desk.dropped reason = desk.dropped reason +
      system.office.store.reports.countP fun report => report.reason? == some reason := by
  rw [Desk.dropped_eq_sum, Desk.dropped_eq_sum, sum_eq_reported (countsWrites_dropped ofWrites) run]
  congr 1
  exact reported_eq_countP (fun report => by simp [Report.adds_dropped]) _

/-- The database has taken the rows of the ledger one after the other. -/
theorem takeAll_ledger :
    takeAll join table (system.office.store.ledger.written.map Write.row) =
      some system.office.store.ledger.table := by
  induction run with
  | here => rfl
  | @turn here there run step ih =>
    rcases ledger_step (step.view reporting_refines) with same | ⟨lane, ticket, row, takes⟩
    · have kept : there.office.store.ledger = here.office.store.ledger := same
      rw [kept, ih]
    · have written : there.office.store.ledger.written =
        here.office.store.ledger.written ++ [writeOf ticket row] := takes.written
      have merged : upsertWith join here.office.store.ledger.table row =
        some there.office.store.ledger.table := takes.merged
      rw [written, List.map_append, takeAll, List.foldlM_append, ← takeAll, ih]
      simp [writeOf, merged]

include created

theorem stands_of_written {number : Nat} (taken : number ∈ system.office.store.ledger.numbers) :
    ∃ lane, number ∈ system.inLane lane .ended ∨ number ∈ system.inLane lane .running := by
  obtain ⟨lane, begun⟩ := Pool.mem_started.mp ((registered created run).begun number taken)
  have listed := Pool.mem_startedIn.mpr begun
  rw [run.takesTurns created lane] at listed
  exact ⟨lane, List.mem_append.mp listed⟩

theorem returned_iff {report : Report} (member : report ∈ system.office.store.reports) :
    report.returned = true ↔ report.tally = .written report.write.row.taskPath := by
  have sound := ((registered created run).reported report member).sound
  rw [sound.reason, Report.tally]
  cases report.reason? <;> simp

theorem writtenAs_eq (path : String) : system.office.desk.writtenAs path = desk.writtenAs path +
    system.office.store.reports.countP fun report =>
      report.returned && report.write.row.taskPath == path := by
  have same : (system.office.store.reports.countP fun report =>
        report.returned && report.write.row.taskPath == path) =
      system.office.store.reports.countP fun report =>
        report.reason?.isNone && report.write.row.taskPath == path := by
    refine List.countP_congr fun report member => ?_
    rw [((registered created run).reported report member).sound.reason]
  rw [Desk.writtenAs_eq_sum, Desk.writtenAs_eq_sum,
    sum_eq_reported (countsWrites_written path) run, same]
  congr 1
  exact reported_eq_countP (fun report => by simp [Report.adds_written]) _

theorem count_written {number : Nat} {path : String}
    (counted : Counted system number (.written path)) :
    system.office.store.ledger.numbers.count number = 1 := by
  have registered := registered created run
  generalize tally : Tally.written path = counting at counted
  cases counted with
  | @reported report member =>
    have same : report.tally = .written report.write.row.taskPath := by
      unfold Report.tally at tally ⊢
      cases reason : report.reason? with
      | none => rfl
      | some => simp [reason] at tally
    have taken := (registered.reported report member).took
      ((returned_iff created run member).mpr same)
    exact List.count_eq_one_of_mem registered.once (List.mem_map_of_mem taken)
  | refused => cases tally
  | discarded => cases tally

theorem dropped_not_written {number count : Nat} {reason : String}
    (counted : Counted system number (.dropped reason count)) :
    number ∉ system.office.store.ledger.numbers := by
  have registered := registered created run
  intro taken
  obtain ⟨lane, stands⟩ := stands_of_written created run taken
  generalize tally : Tally.dropped reason count = counting at counted
  cases counted with
  | @reported report member =>
    have dropped : report.returned = false := by
      rw [Bool.eq_false_iff]
      intro returned
      rw [(returned_iff created run member).mp returned] at tally
      cases tally
    exact (registered.reported report member).kept dropped taken
  | refused event =>
    rcases stands with finished | runs
    · obtain ⟨_, accepted, same⟩ := Pool.mem_acceptedIn.mp (run.accepted_of_inLane created finished)
      exact run.numbersCalls.not_accepted event accepted same
    · obtain ⟨_, accepted, same⟩ := Pool.mem_acceptedIn.mp (run.accepted_of_inLane created runs)
      exact run.numbersCalls.not_accepted event accepted same
  | @discarded _ other event =>
    have gone : number ∈ system.inLane other .discarded := Pool.mem_discardedIn.mpr event
    rcases stands with finished | runs
    · cases (run.stands_alone created gone finished).2
    · cases (run.stands_alone created gone runs).2

theorem counted_stands {number : Nat} {tally : Tally} (counted : Counted system number tally) :
    ∃ standing, system.Stands number standing ∧ CountedAs system number tally standing := by
  cases counted with
  | @reported report member =>
    have ended : report.write.number ∈ Pool.ended system.log := by
      rw [← (registered created run).ended]
      exact List.mem_map_of_mem member
    obtain ⟨lane, here⟩ := Pool.mem_ended.mp ended
    exact ⟨.ended, ⟨lane, here⟩, report, member, rfl, rfl⟩
  | @refused ticket refusal event =>
    exact ⟨.rejected, ⟨ticket, refusal, event, rfl⟩, ticket, refusal, event, rfl, rfl⟩
  | @discarded number lane event =>
    exact ⟨.discarded, ⟨lane, Pool.mem_discardedIn.mpr event⟩, rfl⟩

theorem counted_of_ended {number : Nat} (finished : system.Stands number .ended) :
    ∃ report ∈ system.office.store.reports, report.write.number = number := by
  obtain ⟨lane, here⟩ := finished
  have listed : number ∈ Pool.ended system.log := Pool.mem_ended.mpr ⟨lane, here⟩
  rw [← (registered created run).ended] at listed
  obtain ⟨report, member, same⟩ := List.mem_map.mp listed
  exact ⟨report, member, same⟩

/-- No batch is counted in two ways. -/
theorem counted_unique {number : Nat} (issued : number < system.issued) {left right : Tally}
    (first : Counted system number left) (second : Counted system number right) :
    left = right := by
  obtain ⟨standing, here, first⟩ := counted_stands created run first
  obtain ⟨_, there, second⟩ := counted_stands created run second
  cases (run.stands_once created issued).unique here there
  cases standing with
  | ended =>
    obtain ⟨report, member, same, rfl⟩ := first
    obtain ⟨other, again, number, rfl⟩ := second
    have distinct : (system.office.store.reports.map fun report => report.write.number).Nodup := by
      rw [(registered created run).ended]
      exact run.nodup_ended created
    rw [List.inj_on_of_nodup_map distinct member again (same.trans number.symm)]
  | rejected =>
    obtain ⟨ticket, refusal, event, same, rfl⟩ := first
    obtain ⟨other, also, again, number, rfl⟩ := second
    have equal : (.refused ticket refusal : Pool.Event Writing) = .refused other also :=
      Pool.eq_of_filterMap_nodup run.numbersCalls.nodup event again rfl (by simp [same, number])
    cases equal
    rfl
  | discarded => exact (Eq.symm first).trans second
  | queued | running => exact first.elim

/-- Every batch is counted in one way or is still in hand. -/
theorem counted_once {number : Nat} (issued : number < system.issued) :
    (∃! tally, Counted system number tally) ↔ ¬ InHand system number := by
  have alone := run.stands_once created issued
  constructor
  · rintro ⟨tally, counted, _⟩ inHand
    obtain ⟨_, here, counted⟩ := counted_stands created run counted
    rcases inHand with there | there
    · cases alone.unique here there
      exact counted
    · cases alone.unique here there
      exact counted
  · intro notInHand
    have some : ∃ tally, Counted system number tally := by
      obtain ⟨standing, here, _⟩ := alone
      cases standing with
      | rejected =>
        obtain ⟨ticket, refusal, event, rfl⟩ := here
        exact ⟨_, .refused event⟩
      | queued => exact absurd (.inl here) notInHand
      | running => exact absurd (.inr here) notInHand
      | ended =>
        obtain ⟨report, member, rfl⟩ := counted_of_ended created run here
        exact ⟨_, .reported member⟩
      | discarded =>
        obtain ⟨lane, event⟩ := here
        exact ⟨_, .discarded (Pool.mem_discardedIn.mp event)⟩
    obtain ⟨tally, counted⟩ := some
    exact ⟨tally, counted, fun other also => counted_unique created run issued also counted⟩

/-- What the table took is counted as written, or its write is about to be. -/
theorem written_source {write : Write} (member : write ∈ system.office.store.ledger.written) :
    Counted system write.number (.written write.row.taskPath) ∨ InHand system write.number := by
  have registered := registered created run
  have listed : write.number ∈ system.office.store.ledger.numbers := List.mem_map_of_mem member
  obtain ⟨lane, finished | runs⟩ := stands_of_written created run listed
  · obtain ⟨report, reported, same⟩ := counted_of_ended created run ⟨lane, finished⟩
    have confirms := registered.reported report reported
    have returned : report.returned = true := by
      by_contra dropped
      exact confirms.kept (Bool.eq_false_iff.mpr dropped) (same ▸ listed)
    have equal : report.write = write :=
      List.inj_on_of_nodup_map registered.once (confirms.took returned) member same
    have counted : Counted system report.write.number report.tally := .reported reported
    rw [(returned_iff created run reported).mp returned, equal] at counted
    exact .inl counted
  · exact .inr (.inr ⟨lane, runs⟩)

/-- The counters and what is in hand make up the number of calls, when no call is half-way. -/
theorem issued_eq (quiet : system.isQuiet) : (system.issued : Int) =
    (system.office.desk.written - desk.written) +
      ((writeReasons ++ Pool.dropReasons).map fun reason =>
        system.office.desk.dropped reason - desk.dropped reason).sum + system.pool.load := by
  have calls := run.accountsForCalls created
  have ended := congrArg List.length (registered created run).ended
  rw [List.length_map, length_reports] at ended
  have full := run.dropped_refused created reporting_discreet quiet .full
  have late := run.dropped_refused created reporting_discreet quiet .closed
  have abandoned := run.dropped_abandoned created reporting_discreet quiet
  have timeouts := dropped_eq run (show "pool_timeout" ∈ writeReasons by simp [writeReasons])
  have failures := dropped_eq run (show "query_error" ∈ writeReasons by simp [writeReasons])
  have written := written_eq run
  simp only [writeReasons, Pool.dropReasons, List.cons_append, List.nil_append, List.map_cons,
    List.map_nil, List.sum_cons, List.sum_nil, full, late, abandoned, timeouts, failures,
    written]
  rw [Pool.AccountsForCalls] at calls
  omega

/-- However callers, workers, the database and shutdowns take turns: the accounts of a store are
in order, as long as the database does not crash. A batch that is written by itself is written or
dropped, and counted as that, with the answer that says so. A batch without messages is no batch:
handing it in and writing it change nothing. -/
theorem no_batch_vanishes : Accounted join table desk system ∧
    (∀ (job : WriteJob) (office : Office Database), job.batch ≠ [] →
      job.ComesTo office (job.run office)) ∧
    (∀ index identity (office : Office Depot),
      Depot.append index [] identity office = (none, office)) ∧
    ∀ schema identity (office : Office Database),
      WriteJob.run { schema, batch := [], identity } office = (.ok true, office) := by
  refine ⟨?_, fun job office nonempty => WriteJob.comesTo_run nonempty office, ?_, ?_⟩
  · exact
      { total := issued_eq created run
        once := fun number issued => counted_once created run issued
        written := fun number path => count_written created run
        dropped := fun number reason count => dropped_not_written created run
        table := takeAll_ledger run
        source := fun write member =>
          ⟨written_comesFrom created (run.view reporting_refines) member,
            written_source created run member⟩
        returned := fun report => returned_iff created run
        paths := writtenAs_eq created run
        failures := fun reason => dropped_eq run
        refusals := run.dropped_refused created reporting_discreet
        abandoned := run.dropped_abandoned created reporting_discreet }
  · intro index identity office
    unfold Depot.append
    cases office.store.stores[index]? <;> rfl
  · intro schema identity office
    rfl

end Fresh

/-- Four greetings are handed in: the database has no connection for the first and takes the
second, the third waits, and the fourth finds the queue full. -/
def mixedTurns : List (Pool.Turn Writing Register) :=
  let greet := .submit .outside greeting.identity.storageKey ⟨greeting, none⟩
  [greet, .take 0, greet, greet, greet, .report, prepareTurn 0,
    failTurn 0 ⟨.connection, .timeout⟩, reportTurn 0, .take 0, prepareTurn 0,
    takeTurn appended 0, reportTurn 0]

theorem mixedTurns_allowed :
    ∀ turn ∈ mixedTurns, turn.Allowed (reporting "public" appended) := by
  have offered : Writing.Offered "public" greeting.identity.storageKey ⟨greeting, none⟩ :=
    .batch (by simp) "t" "second" "s" "c"
  simp only [mixedTurns, List.forall_mem_cons]
  exact ⟨offered, trivial, offered, offered, offered, trivial, prepareTurn_allowed 0,
    failTurn_allowed 0 (by simp), reportTurn_allowed 0, trivial, prepareTurn_allowed 0,
    takeTurn_allowed 0, reportTurn_allowed 0, by simp⟩

theorem no_batch_vanishes_mixed :
    ∃ system : System Writing Register,
      Pool.create "writer" 1 2 Pool.textLength = .ok oneWriter ∧
        Run (reporting "public" appended)
          (.start oneWriter { store := { ledger := { table := [] } } }) system ∧
        system.isQuiet ∧ system.issued = 4 ∧ system.pool.load = 1 ∧
        system.office.desk.dropped "pool_timeout" = 1 ∧
        system.office.desk.dropped "queue_full" = 1 ∧ system.office.desk.written = 1 := by
  have created : Pool.create "writer" 1 2 Pool.textLength = .ok oneWriter := by rfl
  have final : ((System.start oneWriter { store := { ledger := { table := [] } } }).replay
      mixedTurns).map (fun system : System Writing Register => (system.call, system.closing,
        system.issued, system.pool.load, Pool.refusedAs system.log .full,
        Pool.refusedAs system.log .closed, Pool.discarded system.log,
        system.office.store.reports.map Report.reason?)) =
      some (none, none, 4, 1, [3], [], [], [some "pool_timeout", none]) := by rfl
  obtain ⟨system, replayed, reached⟩ := Option.map_eq_some_iff.mp final
  simp only [Prod.mk.injEq] at reached
  obtain ⟨call, closing, issued, load, full, late, discarded, reasons⟩ := reached
  have run : Run (reporting "public" appended)
      (.start oneWriter { store := { ledger := { table := [] } } }) system :=
    .of_replay mixedTurns_allowed replayed
  have quiet : system.isQuiet := by
    refine ⟨call, fun other active => ?_⟩
    cases closing.symm.trans active
  obtain ⟨accounted, _⟩ := no_batch_vanishes created run
  have total := accounted.total quiet
  have timeouts := accounted.failures "pool_timeout" (by simp [writeReasons])
  have errors := accounted.failures "query_error" (by simp [writeReasons])
  have refusedFull := accounted.refusals quiet .full
  have refusedLate := accounted.refusals quiet .closed
  have abandoned := accounted.abandoned quiet
  have counts (reason : String) : (system.office.store.reports.countP fun report =>
      report.reason? == some reason) = [some "pool_timeout", none].count (some reason) := by
    rw [← reasons, List.count, List.countP_map]
    rfl
  have none (reason : String) : ({} : Desk).dropped reason = 0 := rfl
  have noneWritten : ({} : Desk).written = 0 := rfl
  rw [counts, none] at timeouts errors
  rw [none, full] at refusedFull
  rw [none, late] at refusedLate
  rw [none, discarded] at abandoned
  simp only [writeReasons, Pool.dropReasons, List.cons_append, List.nil_append, List.map_cons,
    List.map_nil, List.sum_cons, List.sum_nil, timeouts, errors, refusedFull, refusedLate,
    abandoned, none, noneWritten, issued, load] at total
  refine ⟨system, created, run, quiet, issued, load, timeouts, refusedFull, ?_⟩
  simp at total
  omega

end Transcript.Store
