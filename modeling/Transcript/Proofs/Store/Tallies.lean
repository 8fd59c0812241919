import Transcript.Proofs.Pool.Accounting
import Transcript.Proofs.Store.Recording

namespace Transcript

namespace Notice

def isCounted : Notice → Bool
  | .counted .. => true
  | _ => false

end Notice

def Tally.isOfBatch : Tally → Bool
  | .written _ | .dropped .. => true
  | .unwritable _ | .nul _ | .anomaly _ => false

/-- The reasons for which a pool drops jobs. -/
def Pool.dropReasons : List String :=
  [Pool.Refusal.full.reason, Pool.Refusal.closed.reason, Pool.abandonedReason]

/-- A sum over notices to which only what became of a batch adds something. -/
structure CountsBatches (adds : Notice → Int) : Prop where
  uncounted : ∀ notice : Notice, notice.isCounted = false → adds notice = 0
  other : ∀ tally : Tally, tally.isOfBatch = false → adds tally.notice = 0

/-- One to which the batches that a pool drops add nothing either. -/
structure CountsWrites (adds : Notice → Int) : Prop extends CountsBatches adds where
  dropped : ∀ reason ∈ Pool.dropReasons, ∀ count, adds (Tally.notice (.dropped reason count)) = 0

theorem countsBatches_adds {name : String} (labels : List (Value × Value))
    (named : name ∈ ["recorder_batches_written", "recorder_batches_dropped"]) :
    CountsBatches (Notice.adds name labels) where
  uncounted notice uncounted := by
    cases notice <;> first | rfl | cases uncounted
  other tally other := by
    have apart : tally.series ≠ name := by
      rintro rfl
      cases tally <;> simp_all [Tally.series, Tally.isOfBatch]
    simp [Tally.notice, Notice.adds, apart]

theorem CountsBatches.sum_pair {adds : Notice → Int} (counts : CountsBatches adds) {notice : Notice}
    (uncounted : notice.isCounted = false) (tally : Tally) (desk : Desk) :
    ((desk.note notice).note tally.notice).sum adds = desk.sum adds + adds tally.notice := by
  rw [Desk.sum_note, Desk.sum_note, counts.uncounted notice uncounted, Int.add_zero]

theorem CountsBatches.sum_other {adds : Notice → Int} (counts : CountsBatches adds)
    {notice : Notice} (uncounted : notice.isCounted = false) {tally : Tally}
    (other : tally.isOfBatch = false) (desk : Desk) :
    ((desk.note notice).note tally.notice).sum adds = desk.sum adds := by
  rw [counts.sum_pair uncounted, counts.other tally other, Int.add_zero]

namespace Pool

variable {σ : Type} {adds : Notice → Int}

theorem sum_noteEach (adds : Notice → Int) (notices : List Notice) (office : Office σ) :
    (noteEach notices office).desk.sum adds = office.desk.sum adds + (notices.map adds).sum := by
  induction notices generalizing office with
  | nil => simp [noteEach]
  | cons notice rest ih =>
    have first : (office.note notice).desk.sum adds = _ := Desk.sum_note adds office.desk notice
    rw [List.map_cons, List.sum_cons, ← Int.add_assoc, ← first]
    exact ih (office.note notice)

/-- Notices that a pool may make by itself. -/
def AreOwn (notices : List Notice) : Prop :=
  ∀ notice ∈ notices, notice.isCounted = false ∨
    ∃ reason ∈ dropReasons, ∃ count, notice = Tally.notice (.dropped reason count)

theorem areOwn_submissionNotices (name : String) (key : Value) (refusal : Refusal) :
    AreOwn (submissionNotices name key refusal.submission) := by
  intro notice member
  cases refusal with
  | full =>
    rcases List.mem_pair.mp member with rfl | rfl
    · exact .inl rfl
    · exact .inr ⟨Refusal.full.reason, by simp [dropReasons], 1, rfl⟩
  | closed =>
    rcases List.mem_pair.mp member with rfl | rfl
    · exact .inl rfl
    · exact .inr ⟨Refusal.closed.reason, by simp [dropReasons], 1, rfl⟩

theorem areOwn_endingNotices (name : String) (ending : Ending) :
    AreOwn (endingNotices name ending) := by
  intro notice member
  cases ending with
  | raised =>
    cases List.mem_singleton.mp member
    exact .inl rfl
  | returned | left => cases member

theorem areOwn_abandonedNotices (name : String) (count : Nat) :
    AreOwn (abandonedNotices name count) := by
  intro notice member
  unfold abandonedNotices at member
  split at member
  · cases member
  · rcases List.mem_pair.mp member with rfl | rfl
    · exact .inl rfl
    · exact .inr ⟨abandonedReason, by simp [dropReasons], count, rfl⟩

theorem areOwn_uncounted {notice : Notice} (uncounted : notice.isCounted = false) :
    AreOwn [notice] := by
  intro other member
  cases List.mem_singleton.mp member
  exact .inl uncounted

/-- What neither the pool's own notices nor the jobs that run change stays as it is. -/
theorem Step.keepsReading_of_running {J α : Type} {conduct : Conduct J σ}
    {system next : System J σ} (reading : Office σ → α)
    (own : ∀ notices, AreOwn notices → ∀ office, reading (noteEach notices office) = reading office)
    (moves : ∀ lane ticket job after, system.pool.workerAt lane = .running ticket →
      conduct.moves ticket system.office job after → reading after = reading system.office)
    (ends : ∀ lane ticket ending after, system.pool.workerAt lane = .running ticket →
      conduct.ends ticket system.office ending after → reading after = reading system.office)
    (step : Step conduct system next) : reading next.office = reading system.office := by
  cases step with
  | report => exact own _ (areOwn_submissionNotices _ _ _) _
  | move running moved => exact moves _ _ _ _ (running?_eq_some.mp running).2 moved
  | finish running _ ended =>
    exact (own _ (areOwn_endingNotices _ _) _).trans
      (ends _ _ _ _ (running?_eq_some.mp running).2 ended)
  | tell => exact own _ (areOwn_abandonedNotices _ _) _
  | skipMark => exact own _ (areOwn_uncounted rfl) _
  | outlast => exact own _ (areOwn_uncounted rfl) _
  | leave => exact own _ (areOwn_uncounted rfl) _
  | _ => rfl

/-- What neither the pool's own notices nor the jobs change stays as it is. -/
theorem Step.keepsReading {J α : Type} {conduct : Conduct J σ} {system next : System J σ}
    {reading : Office σ → α}
    (own : ∀ notices, AreOwn notices → ∀ office, reading (noteEach notices office) = reading office)
    (moves : ∀ ticket before job after, conduct.moves ticket before job after →
      reading after = reading before)
    (ends : ∀ ticket before ending after, conduct.ends ticket before ending after →
      reading after = reading before)
    (step : Step conduct system next) : reading next.office = reading system.office :=
  step.keepsReading_of_running reading own (fun _ ticket job after _ => moves ticket _ job after)
    fun _ ticket ending after _ => ends ticket _ ending after

/-- What a pool notes by itself adds nothing to a sum to which only other counts add. -/
theorem AreOwn.sum_noteEach {notices : List Notice} (own : AreOwn notices)
    (uncounted : ∀ notice : Notice, notice.isCounted = false → adds notice = 0)
    (dropped : ∀ reason ∈ dropReasons, ∀ count, adds (Tally.notice (.dropped reason count)) = 0)
    (office : Office σ) : (noteEach notices office).desk.sum adds = office.desk.sum adds := by
  have zero : (notices.map adds).sum = 0 := by
    refine Notice.sum_eq_zero fun notice listed => ?_
    rcases own notice listed with other | ⟨reason, known, count, rfl⟩
    · exact uncounted notice other
    · exact dropped reason known count
  rw [Pool.sum_noteEach, zero, Int.add_zero]

/-- What a pool notes by itself adds nothing to the counts of writes. -/
theorem sum_noteEach_of_own (counts : CountsWrites adds) {notices : List Notice}
    (own : AreOwn notices) (office : Office σ) :
    (noteEach notices office).desk.sum adds = office.desk.sum adds :=
  own.sum_noteEach counts.uncounted counts.dropped office

end Pool

namespace Store

variable {schema : String} {join : String → String → Option String} {adds : Notice → Int}

theorem sum_document (counts : CountsBatches adds) (batch : List Message) (identity : Identity)
    (desk : Desk) : (document batch identity desk).2.sum adds = desk.sum adds := by
  unfold document
  split
  · exact counts.sum_other rfl rfl desk
  · dsimp only
    split
    · rfl
    · exact counts.sum_other rfl rfl desk

theorem sum_classify (counts : CountsBatches adds) (batch : List Message) (desk : Desk) :
    (TaskPath.classify batch desk).2.sum adds = desk.sum adds := by
  unfold TaskPath.classify
  dsimp only
  induction TaskPath.anomalies (TaskPath.intents batch) generalizing desk with
  | nil => rfl
  | cons tag rest ih =>
    exact (ih _).trans (counts.sum_other rfl rfl desk)

theorem WriteJob.sum_prepareRow (counts : CountsBatches adds) (job : WriteJob) (desk : Desk) :
    (job.prepareRow desk).2.sum adds = desk.sum adds := by
  unfold prepareRow
  dsimp only
  exact (sum_classify counts _ _).trans (sum_document counts _ _ _)

/-- What a write came to: what the database answered, and whether the batch was written. -/
structure Report where
  write : Write
  outcome : Except Breakdown Unit
  returned : Bool

namespace Report

def reason? (report : Report) : Option String :=
  match report.outcome with
  | .ok () => none
  | .error breakdown => breakdown.outage.dropReason?

def tally (report : Report) : Tally :=
  match report.reason? with
  | none => .written report.write.row.taskPath
  | some reason => .dropped reason 1

end Report

def writeReasons : List String := ["pool_timeout", "query_error"]

theorem Outage.dropReason?_mem {outage : Outage} {reason : String}
    (dropped : outage.dropReason? = some reason) : reason ∈ writeReasons := by
  cases outage <;> simp_all [dropReason?, writeReasons, eq_comm]

namespace Report

theorem reason?_mem {report : Report} {reason : String} (dropped : report.reason? = some reason) :
    reason ∈ writeReasons := by
  unfold reason? at dropped
  split at dropped
  · cases dropped
  · exact Outage.dropReason?_mem dropped

theorem adds_dropped (report : Report) (reason : String) :
    report.tally.notice.adds "recorder_batches_dropped" [(.str "reason", .str reason)] =
      if report.reason? = some reason then 1 else 0 := by
  unfold tally
  split
  · rename_i none
    simp [none, Tally.notice, Notice.adds, Tally.series]
  · rename_i other some
    simp [some, Tally.adds_dropped]

theorem adds_written (report : Report) (path : String) :
    report.tally.notice.adds "recorder_batches_written" [(.str "task_path", .str path)] =
      if report.reason? = none ∧ report.write.row.taskPath = path then 1 else 0 := by
  unfold tally
  split
  · rename_i none
    simp [none, Tally.notice, Notice.adds, Tally.series, Tally.label, Tally.amount, labelKey_single,
      Value.integer?]
  · rename_i other some
    simp [some, Tally.notice, Notice.adds, Tally.series]

theorem addsTo_written (report : Report) :
    report.tally.notice.addsTo "recorder_batches_written" =
      if report.reason? = none then 1 else 0 := by
  unfold tally
  split
  · rename_i none
    simp [none, Tally.notice, Notice.addsTo, Tally.series, Tally.amount, Value.integer?]
  · rename_i other some
    simp [some, Tally.notice, Notice.addsTo, Tally.series]

end Report

theorem countsWrites_written (path : String) :
    CountsWrites (Notice.adds "recorder_batches_written" [(.str "task_path", .str path)]) where
  toCountsBatches := countsBatches_adds _ (by simp)
  dropped reason _ count := by simp [Tally.notice, Notice.adds, Tally.series]

theorem countsWrites_allWritten : CountsWrites (Notice.addsTo "recorder_batches_written") where
  uncounted notice uncounted := by
    cases notice <;> first | rfl | cases uncounted
  other tally other := by
    cases tally with
    | written | dropped => cases other
    | _ => rfl
  dropped reason _ count := rfl

theorem countsWrites_dropped {reason : String} (ofWrites : reason ∈ writeReasons) :
    CountsWrites (Notice.adds "recorder_batches_dropped" [(.str "reason", .str reason)]) where
  toCountsBatches := countsBatches_adds _ (by simp)
  dropped other own count := by
    have apart : other ≠ reason := by
      rintro rfl
      simp only [writeReasons, List.mem_cons, List.not_mem_nil, or_false] at ofWrites
      rcases ofWrites with rfl | rfl <;>
        simp [Pool.dropReasons, Pool.Refusal.reason, Pool.abandonedReason] at own
    rw [Tally.adds_dropped, if_neg apart]

/-- A report says that the batch was written if the database took it, and otherwise it has a
reason for the drop. -/
structure Report.IsSound (report : Report) : Prop where
  returned : report.returned = true ↔ report.outcome = .ok ()
  reason : report.returned = report.reason?.isNone

/-- The report of a write that concludes: a crash of the database is no conclusion. -/
theorem WriteJob.conclude_isSound {σ : Type} {job : WriteJob} {row : Row}
    {outcome : Except Breakdown Unit} {office after : Office σ} {returned : Bool}
    (concluded : job.conclude row outcome office = (.ok returned, after)) (write : Write) :
    Report.IsSound ⟨write, outcome, returned⟩ := by
  unfold conclude at concluded
  split at concluded
  · cases concluded
    exact ⟨by simp, rfl⟩
  · split at concluded
    · rename_i reason found
      cases concluded
      exact ⟨by simp, by simp [Report.reason?, found]⟩
    · cases concluded

/-- A write concludes by counting its batch. -/
theorem WriteJob.sum_conclude {σ : Type} (counts : CountsBatches adds) {job : WriteJob} {row : Row}
    {outcome : Except Breakdown Unit} {office after : Office σ} {returned : Bool}
    (concluded : job.conclude row outcome office = (.ok returned, after)) (number : Nat) :
    after.desk.sum adds = office.desk.sum adds +
      adds (Report.tally ⟨⟨number, job.batch, job.identity, row⟩, outcome, returned⟩).notice := by
  unfold conclude at concluded
  split at concluded
  · cases concluded
    exact counts.sum_pair rfl _ office.desk
  · rename_i breakdown
    split at concluded
    · rename_i reason found
      cases concluded
      have uncounted : (breakdown.outage.dropNotice job.identity breakdown.message).isCounted =
          false := by
        cases breakdown.outage <;> rfl
      rw [Report.tally, Report.reason?]
      simp only [found]
      exact counts.sum_pair uncounted _ office.desk
    · cases concluded

end Store

end Transcript
