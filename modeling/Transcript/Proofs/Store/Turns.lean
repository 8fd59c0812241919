import Transcript.Proofs.Pool.Replay
import Transcript.Proofs.Store.Reporting

namespace Transcript.Store

variable {schema : String} {join : String → String → Option String}

/-- The write on a worker prepares its row. -/
def prepareTurn (index : Nat) : Pool.Turn Writing Register :=
  .move index fun ticket office =>
    match ticket.job with
    | ⟨job, none⟩ =>
      if job.row.isNone then
        let prepared := job.prepareRow office.desk
        some (⟨{ job with row := some prepared.1 }, none⟩, { office with desk := prepared.2 })
      else none
    | _ => none

/-- The database fails the write on a worker. -/
def failTurn (index : Nat) (breakdown : Breakdown) : Pool.Turn Writing Register :=
  .move index fun ticket office =>
    match ticket.job with
    | ⟨job, none⟩ => job.row.map fun _ => (⟨job, some (.error breakdown)⟩, office)
    | _ => none

/-- The database takes the write on a worker. -/
def takeTurn (join : String → String → Option String) (index : Nat) : Pool.Turn Writing Register :=
  .move index fun ticket office =>
    match ticket.job with
    | ⟨job, none⟩ => job.row.bind fun row =>
      (upsertWith join office.store.ledger.table row).map fun table =>
        (⟨job, some (.ok ())⟩,
          { office with store := { office.store with
              ledger := ⟨table, office.store.ledger.written ++
                [⟨ticket.number, job.batch, job.identity, row⟩]⟩ } })
    | _ => none

/-- The write on a worker ends and is reported. -/
def reportTurn (index : Nat) : Pool.Turn Writing Register :=
  .finish index fun ticket office =>
    match ticket.job with
    | ⟨job, some outcome⟩ => job.row.bind fun row =>
      match job.conclude row outcome office with
      | (.ok returned, after) =>
        some (WriteJob.ending (.ok returned),
          { after with store := { after.store with
              reports := after.store.reports ++
                [⟨⟨ticket.number, job.batch, job.identity, row⟩, outcome, returned⟩] } })
      | _ => none
    | _ => none

theorem prepareTurn_allowed (index : Nat) :
    (prepareTurn index).Allowed (reporting schema join) := by
  rintro ⟨number, key, job, answer⟩ office next after acted
  cases answer with
  | some => cases acted
  | none =>
    dsimp only at acted
    split at acted
    · rename_i fresh
      cases acted
      refine ⟨.prepared (Option.isNone_iff_eq_none.mp fresh), rfl, ?_⟩
      intro breakdown impossible
      cases impossible
    · cases acted

theorem failTurn_allowed (index : Nat) {breakdown : Breakdown} (known : breakdown.outage ≠ .crash) :
    (failTurn index breakdown).Allowed (reporting schema join) := by
  rintro ⟨number, key, job, answer⟩ office next after acted
  cases answer with
  | some => cases acted
  | none =>
    obtain ⟨row, ready, same⟩ := Option.map_eq_some_iff.mp acted
    cases same
    refine ⟨.answered ready (.failed breakdown), rfl, ?_⟩
    rintro _ ⟨⟩
    exact known

theorem takeTurn_allowed (index : Nat) : (takeTurn join index).Allowed (reporting schema join) := by
  rintro ⟨number, key, job, answer⟩ office next after acted
  cases answer with
  | some => cases acted
  | none =>
    obtain ⟨row, ready, taken⟩ := Option.bind_eq_some_iff.mp acted
    obtain ⟨table, merged, same⟩ := Option.map_eq_some_iff.mp taken
    cases same
    refine ⟨.answered ready (.took merged), rfl, ?_⟩
    intro breakdown impossible
    cases impossible

theorem reportTurn_allowed (index : Nat) : (reportTurn index).Allowed (reporting schema join) := by
  rintro ⟨number, key, job, answer⟩ office ending after acted
  cases answer with
  | none => cases acted
  | some outcome =>
    obtain ⟨row, ready, concluded⟩ := Option.bind_eq_some_iff.mp acted
    split at concluded
    · rename_i found
      cases concluded
      exact .concluded ready found
    · cases concluded

end Transcript.Store
