import Mathlib.Data.List.Perm.Subperm
import Transcript.Proofs.Pool.Replay
import Transcript.Proofs.Pool.Standing
import Transcript.Proofs.Store.DocumentOrder

namespace Transcript.Store

open Pool (System Step Run Ticket)

/-- A batch with the identity that it is recorded under. -/
abbrev Batch := List Message × Identity

def Batch.isUnder (thread checkpoint : String) (batch : Batch) : Bool :=
  batch.2.storageKey.sameKey (.tuple [.str thread, .str checkpoint])

/-- The batch that an event hands in, be it accepted or turned away. -/
def handedIn? : Pool.Event Writing → Option Batch
  | .accepted ticket _ | .refused ticket _ => some (ticket.job.job.batch, ticket.job.job.identity)
  | _ => none

def handedIn (log : List (Pool.Event Writing)) : List Batch := log.filterMap handedIn?

variable {schema : String} {join : String → String → Option String}
variable {first system next last : System Writing Ledger}

@[simp] theorem handedIn_snoc (log : List (Pool.Event Writing)) (event : Pool.Event Writing) :
    handedIn (log ++ [event]) = handedIn log ++ (handedIn? event).toList := by
  cases found : handedIn? event <;> simp [handedIn, found]

/-- A turn hands a batch in, or leaves the caller as free as it was. -/
theorem handedIn_step (step : Step (recording schema join) system next) :
    (handedIn next.log = handedIn system.log ∧ (system.call = none → next.call = none)) ∨
      ∃ batch, handedIn next.log = handedIn system.log ++ [batch] := by
  cases step with
  | accept | refuse => exact .inr ⟨_, handedIn_snoc _ _⟩
  | report => exact .inl ⟨rfl, fun _ => rfl⟩
  | start | finish | mark => exact .inl ⟨by simp [handedIn?], id⟩
  | @discard _ _ _ entry =>
    refine .inl ⟨?_, id⟩
    cases entry <;> simp [Pool.Event.removal, handedIn?]
  | _ => exact .inl ⟨rfl, id⟩

theorem handedIn_grows (run : Run (recording schema join) first last) :
    (handedIn first.log).length ≤ (handedIn last.log).length :=
  (run.log_prefix.filterMap handedIn?).length_le

theorem free_of_quiet (run : Run (recording schema join) first last)
    (quiet : handedIn last.log = handedIn first.log) (free : first.call = none) :
    last.call = none := by
  induction run with
  | here => exact free
  | @turn system next run step ih =>
    have grown := handedIn_grows run
    rcases handedIn_step step with ⟨same, frees⟩ | ⟨batch, more⟩
    · exact frees (ih (same.symm.trans quiet))
    · rw [← quiet, more, List.length_append, List.length_singleton] at grown
      omega

/-- Hand a batch in under the key of its identity, and report it if it is turned away. An empty
batch is left alone. -/
def append (schema : String) (batch : Batch) (system : System Writing Ledger) :
    System Writing Ledger :=
  if batch.1.isEmpty then system
  else
    let job : Writing := ⟨{ schema, batch := batch.1, identity := batch.2 }, none⟩
    match system.turn (.submit .outside batch.2.storageKey job) with
    | some waiting => (waiting.turn .report).getD waiting
    | none => system

/-- A batch that may be handed in is accepted or turned away. -/
theorem turn_submit {key : Value} {job : Writing} (offered : Writing.Offered schema key job)
    (free : system.call = none) :
    ∃ waiting, system.turn (.submit .outside key job) = some waiting ∧
      handedIn waiting.log = handedIn system.log ++ [(job.job.batch, job.job.identity)] := by
  have can : system.canCall .outside = true := by simp [System.canCall, free]
  have routed : ∃ lane, key.lane system.pool.spread system.pool.lanes.length = .ok lane := by
    cases offered
    exact ⟨_, rfl⟩
  obtain ⟨lane, routed⟩ := routed
  rcases submitted : system.pool.submit key (system.ticket key job) with ⟨submission, pool⟩
  cases submission with
  | accepted | full | closed =>
    simp only [System.turn, can, submitted, routed, if_true]
    exact ⟨_, rfl, handedIn_snoc _ _⟩
  | unhashable kind =>
    unfold Pool.submit at submitted
    simp only [routed] at submitted
    split at submitted
    · cases submitted
    · split at submitted
      · cases submitted
      · split at submitted <;> cases submitted

/-- A call that is turned away is reported, and then nobody waits. -/
theorem turn_report (waiting : System Writing Ledger) :
    Run (recording schema join) waiting ((waiting.turn .report).getD waiting) ∧
      ((waiting.turn .report).getD waiting).log = waiting.log ∧
      ((waiting.turn .report).getD waiting).call = none := by
  cases pending : waiting.call with
  | none =>
    have stays : waiting.turn .report = none := by simp [System.turn, pending]
    rw [stays]
    exact ⟨.here, rfl, pending⟩
  | some call =>
    obtain ⟨told, taken, log, free⟩ : ∃ told, waiting.turn .report = some told ∧
        told.log = waiting.log ∧ told.call = none := by
      rw [System.turn, pending, Option.map_some]
      exact ⟨_, rfl, rfl, rfl⟩
    have step : Step (recording schema join) waiting told := by
      refine Pool.step_of_turn ?_ taken
      trivial
    rw [taken]
    exact ⟨Run.here.turn step, log, free⟩

/-- What becomes of a call: one batch is handed in, and the caller is free again. -/
structure HandsIn (schema : String) (join : String → String → Option String) (batch : Batch)
    (system next : System Writing Ledger) : Prop where
  run : Run (recording schema join) system next
  handedIn : handedIn next.log = handedIn system.log ++ [batch]
  free : next.call = none

/-- One or more messages under an identity of texts are handed in as one batch. -/
theorem append_handsIn {messages : List Message} (some : messages ≠ [])
    (threadId promptId sessionId checkpointId : String) (free : system.call = none) :
    HandsIn schema join (messages, .ofTexts threadId promptId sessionId checkpointId) system
      (append schema (messages, .ofTexts threadId promptId sessionId checkpointId) system) := by
  have offered : Writing.Offered schema _ _ := .batch some threadId promptId sessionId checkpointId
  obtain ⟨waiting, taken, grown⟩ := turn_submit offered free
  obtain ⟨run, log, nobody⟩ : Run (recording schema join) waiting _ ∧ _ := turn_report waiting
  have step : Step (recording schema join) system waiting := by
    refine Pool.step_of_turn ?_ taken
    exact offered
  have whole : append schema (messages, .ofTexts threadId promptId sessionId checkpointId) system =
      (waiting.turn .report).getD waiting := by
    rw [append, if_neg (by simpa using some)]
    simp only [taken]
  rw [whole]
  exact ⟨(Run.here.turn step).trans run, by rw [log, grown], nobody⟩

/-- What the other threads of a store do after each call: any turns at all, in which no batch is
handed in. -/
structure Schedule (schema : String) (join : String → String → Option String) where
  turns : System Writing Ledger → System Writing Ledger
  run : ∀ system, Run (recording schema join) system (turns system)
  quiet : ∀ system, handedIn (turns system).log = handedIn system.log

/-- One or more messages under an identity of texts are handed in, whatever the other threads do
after that. -/
theorem Schedule.handsIn (schedule : Schedule schema join) {messages : List Message}
    (some : messages ≠ []) (threadId promptId sessionId checkpointId : String)
    (free : system.call = none) :
    HandsIn schema join (messages, .ofTexts threadId promptId sessionId checkpointId) system
      (schedule.turns
        (append schema (messages, .ofTexts threadId promptId sessionId checkpointId) system)) := by
  have taken : HandsIn schema join _ system _ :=
    append_handsIn some threadId promptId sessionId checkpointId free
  have turns := schedule.run
    (append schema (messages, .ofTexts threadId promptId sessionId checkpointId) system)
  have quiet := schedule.quiet
    (append schema (messages, .ofTexts threadId promptId sessionId checkpointId) system)
  exact ⟨taken.run.trans turns, quiet.trans taken.handedIn, free_of_quiet turns quiet taken.free⟩

/-- The gateway of a store among its threads. What the store notes is noted on its side. -/
def storing (schema : String) (schedule : Schedule schema join) :
    Gateway (System Writing Ledger) where
  enabled := true
  append batch identity office :=
    (none, { office with
      store := schedule.turns (append schema (batch, identity) office.store) })

/-- The database has taken the batch of every call. -/
def AllWritten (system : System Writing Ledger) : Prop :=
  ∀ number < system.issued, ∃ write ∈ system.office.store.written, write.number = number

def ticketsUnder (log : List (Pool.Event Writing)) (key : Value) : List (Ticket Writing) :=
  log.filterMap fun
    | .accepted ticket _ => if ticket.key.sameKey key then some ticket else none
    | _ => none

theorem acceptedUnder_eq_map (log : List (Pool.Event Writing)) (key : Value) :
    Pool.acceptedUnder log key = (ticketsUnder log key).map Ticket.number := by
  rw [Pool.acceptedUnder, ticketsUnder, List.map_filterMap]
  refine List.filterMap_congr fun event _ => ?_
  cases event with
  | accepted ticket => by_cases same : ticket.key.sameKey key <;> simp [same]
  | _ => rfl

theorem mem_ticketsUnder {log : List (Pool.Event Writing)} {key : Value} {ticket : Ticket Writing} :
    ticket ∈ ticketsUnder log key ↔
      ticket.key.sameKey key = true ∧ ∃ lane, .accepted ticket lane ∈ log := by
  simp only [ticketsUnder, List.mem_filterMap]
  constructor
  · rintro ⟨event, member, found⟩
    cases event <;> simp at found
    obtain ⟨same, rfl⟩ := found
    exact ⟨same, _, member⟩
  · rintro ⟨same, lane, member⟩
    exact ⟨_, member, by simp [same]⟩

theorem map_eq_of_numbers {α β γ : Type} {items : List α} {others : List β} {number : α → Nat}
    {otherNumber : β → Nat} {f : α → γ} {g : β → γ}
    (numbers : items.map number = others.map otherNumber)
    (same : ∀ item ∈ items, ∀ other ∈ others, number item = otherNumber other →
      f item = g other) : items.map f = others.map g := by
  induction items generalizing others with
  | nil =>
    rw [List.map_eq_nil_iff.mp numbers.symm]
    rfl
  | cons item rest ih =>
    cases others with
    | nil => cases numbers
    | cons other others =>
      obtain ⟨first, later⟩ := List.cons.inj numbers
      have here := same item List.mem_cons_self other List.mem_cons_self first
      have there := ih later fun item member other inside =>
        same item (List.mem_cons_of_mem _ member) other (List.mem_cons_of_mem _ inside)
      rw [List.map_cons, List.map_cons, here, there]

section Fresh

variable {name : String} {workers queueSize : Int} {spread : Value → Int}
variable {pool : Pool (Ticket Writing)} {table : Table} {desk : Desk}
variable (created : Pool.create name workers queueSize spread = .ok pool)
  (run : Run (recording schema join) (.start pool { desk, store := { table } }) system)
  (all : AllWritten system)
include created run all

theorem written_of_called {number : Nat} (called : number ∈ Pool.calls system.log) :
    ∃ write ∈ system.office.store.written, write.number = number ∧
      ∃ ticket lane, .accepted ticket lane ∈ system.log ∧ ticket.number = number ∧
        ticket.key = write.identity.storageKey := by
  rw [run.numbersCalls, List.mem_range] at called
  obtain ⟨write, written, rfl⟩ := all number called
  obtain ⟨_, ticket, lane, accepted, same, key, _⟩ := written_comesFrom created run written
  exact ⟨write, written, rfl, ticket, lane, accepted, same, key⟩

theorem none_refused (ticket : Ticket Writing) (refusal : Pool.Refusal) :
    .refused ticket refusal ∉ system.log := by
  intro refused
  have called : ticket.number ∈ Pool.calls system.log :=
    Pool.mem_calls.mpr (.inr ⟨ticket, refusal, refused, rfl⟩)
  obtain ⟨_, _, _, other, lane, accepted, same, _⟩ := written_of_called created run all called
  exact run.numbersCalls.not_accepted refused accepted same

/-- The writes to a document are the accepted calls that address it, one for one. -/
theorem under_numbers (thread checkpoint : String) :
    (system.office.store.under thread checkpoint).map Write.number =
      Pool.acceptedUnder system.log (.tuple [.str thread, .str checkpoint]) := by
  refine (under_sublist created run thread checkpoint).eq_of_length_le ?_
  have inside : Pool.acceptedUnder system.log (.tuple [.str thread, .str checkpoint]) ⊆
      (system.office.store.under thread checkpoint).map Write.number := by
    intro number member
    obtain ⟨ticket, lane, accepted, same, rfl⟩ := Pool.mem_acceptedUnder.mp member
    have called : ticket.number ∈ Pool.calls system.log :=
      Pool.mem_calls.mpr (.inl ⟨ticket, lane, accepted, rfl⟩)
    obtain ⟨write, written, number, other, _, also, otherNumber, key⟩ :=
      written_of_called created run all called
    obtain ⟨rfl, _⟩ := run.numbersCalls.accepted_unique also accepted otherNumber
    refine List.mem_map.mpr ⟨write, List.mem_filter.mpr ⟨written, ?_⟩, number⟩
    rwa [Write.isUnder, ← key]
  exact (List.subperm_of_subset (nodup_acceptedUnder run thread checkpoint) inside).length_le

/-- The writes to a document are the batches that were handed in for it, in their order. -/
theorem batches_under (thread checkpoint : String) :
    (system.office.store.under thread checkpoint).map (fun write => (write.batch, write.identity)) =
      (handedIn system.log).filter (Batch.isUnder thread checkpoint) := by
  have tickets : (handedIn system.log).filter (Batch.isUnder thread checkpoint) =
      (ticketsUnder system.log (.tuple [.str thread, .str checkpoint])).map
        fun ticket => (ticket.job.job.batch, ticket.job.job.identity) := by
    rw [handedIn, ticketsUnder, List.filter_filterMap, List.map_filterMap]
    refine List.filterMap_congr fun event member => ?_
    cases event with
    | accepted ticket lane =>
      have key := (run.offered member).key_eq
      by_cases same : ticket.key.sameKey (.tuple [.str thread, .str checkpoint]) <;>
        simp [handedIn?, Batch.isUnder, ← key, same, Option.filter]
    | refused ticket refusal => exact absurd member (none_refused created run all ticket refusal)
    | _ => rfl
  rw [tickets]
  have numbers := under_numbers created run all thread checkpoint
  rw [acceptedUnder_eq_map] at numbers
  refine map_eq_of_numbers numbers fun write member ticket inside same => ?_
  obtain ⟨_, lane, accepted⟩ := mem_ticketsUnder.mp inside
  obtain ⟨_, other, _, also, number, _, batch, identity⟩ :=
    written_comesFrom created run (List.mem_filter.mp member).1
  obtain ⟨rfl, _⟩ := run.numbersCalls.accepted_unique also accepted (number.trans same)
  rw [batch, identity]

end Fresh

end Transcript.Store
