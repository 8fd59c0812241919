import Transcript.Proofs.Pool.History

namespace Transcript.Pool

variable {J σ : Type} {conduct : Conduct J σ} {system next : System J σ}

inductive Effect (conduct : Conduct J σ) (system next : System J σ) : Prop where
  | nothing (pool : next.pool = system.pool) (log : next.log = system.log)
      (issued : next.issued = system.issued) (closing : next.closing = system.closing)
      (store : next.office.store = system.office.store)
  | accepted (ticket : Ticket J) (lane : Nat) (opened : system.pool.closed = false)
      (number : ticket.number = system.issued)
      (routed : ticket.key.lane system.pool.spread system.pool.lanes.length = .ok lane)
      (inside : lane < system.pool.lanes.length)
      (room : (system.pool.queueAt lane).length < system.pool.capacity)
      (pool : next.pool = system.pool.setLane lane
        ⟨system.pool.queueAt lane ++ [.job ticket], system.pool.workerAt lane⟩)
      (log : next.log = system.log ++ [.accepted ticket lane])
      (issued : next.issued = system.issued + 1) (closing : next.closing = system.closing)
      (offered : conduct.offers ticket.key ticket.job)
      (store : next.office.store = system.office.store)
  | refused (ticket : Ticket J) (refusal : Refusal) (number : ticket.number = system.issued)
      (pool : next.pool = system.pool) (log : next.log = system.log ++ [.refused ticket refusal])
      (issued : next.issued = system.issued + 1) (closing : next.closing = system.closing)
      (store : next.office.store = system.office.store)
  | started (ticket : Ticket J) (lane : Nat) (rest : List (Entry (Ticket J)))
      (inside : lane < system.pool.lanes.length) (idle : system.pool.workerAt lane = .idle)
      (queue : system.pool.queueAt lane = .job ticket :: rest)
      (pool : next.pool = system.pool.setLane lane ⟨rest, .running ticket⟩)
      (log : next.log = system.log ++ [.started ticket.number lane])
      (issued : next.issued = system.issued) (closing : next.closing = system.closing)
      (store : next.office.store = system.office.store)
  | stopped (lane : Nat) (rest : List (Entry (Ticket J)))
      (inside : lane < system.pool.lanes.length) (idle : system.pool.workerAt lane = .idle)
      (queue : system.pool.queueAt lane = .stop :: rest)
      (pool : next.pool = system.pool.setLane lane ⟨rest, .stopped⟩)
      (log : next.log = system.log) (issued : next.issued = system.issued)
      (closing : next.closing = system.closing) (store : next.office.store = system.office.store)
  | moved (ticket : Ticket J) (job : J) (lane : Nat) (inside : lane < system.pool.lanes.length)
      (running : system.pool.workerAt lane = .running ticket)
      (step : conduct.moves ticket system.office job next.office)
      (pool : next.pool = system.pool.setLane lane
        ⟨system.pool.queueAt lane, .running { ticket with job }⟩)
      (log : next.log = system.log) (issued : next.issued = system.issued)
      (closing : next.closing = system.closing)
  | ended (ticket : Ticket J) (ending : Ending) (lane : Nat)
      (inside : lane < system.pool.lanes.length)
      (running : system.pool.workerAt lane = .running ticket)
      (pool : next.pool = system.pool.setLane lane ⟨system.pool.queueAt lane, ending.worker⟩)
      (log : next.log = system.log ++ [.ended ticket.number lane ending])
      (issued : next.issued = system.issued) (closing : next.closing = system.closing)
      (settled : ∃ office, conduct.ends ticket system.office ending office ∧
        next.office.store = office.store)
  | closed (policy : ShutdownPolicy) (opened : system.pool.closed = false)
      (pool : next.pool = system.pool.close) (log : next.log = system.log)
      (issued : next.issued = system.issued) (closing : next.closing = some (.start policy))
      (store : next.office.store = system.office.store)
  | removed (entry : Entry (Ticket J)) (lane : Nat) (rest : List (Entry (Ticket J)))
      (inside : lane < system.pool.lanes.length)
      (queue : system.pool.queueAt lane = entry :: rest)
      (pool : next.pool = system.pool.setLane lane ⟨rest, system.pool.workerAt lane⟩)
      (log : next.log = system.log ++ [.removal lane entry])
      (issued : next.issued = system.issued) (closing : Closing)
      (active : system.closing = some closing) (stage : closing.stage = .emptying lane)
      (counted : next.closing = some { closing with count := closing.count + 1 })
      (store : next.office.store = system.office.store)
  | marked (lane : Nat) (inside : lane < system.pool.lanes.length)
      (room : (system.pool.queueAt lane).length < system.pool.capacity)
      (pool : next.pool = system.pool.setLane lane
        ⟨system.pool.queueAt lane ++ [.stop], system.pool.workerAt lane⟩)
      (log : next.log = system.log ++ [.marked lane]) (issued : next.issued = system.issued)
      (closing : Closing) (active : system.closing = some closing)
      (stage : closing.stage = .marking lane)
      (passed : next.closing = some (closing.proceed system.pool.lanes.length))
      (store : next.office.store = system.office.store)
  | passed (pool : next.pool = system.pool) (log : next.log = system.log)
      (issued : next.issued = system.issued) (closing : Closing)
      (active : system.closing = some closing)
      (empty : ∀ lane, closing.stage = .emptying lane → system.pool.queueAt lane = [])
      (passed : next.closing = some (closing.proceed system.pool.lanes.length))
      (store : next.office.store = system.office.store)

theorem Step.effect (step : Step conduct system next) : Effect conduct system next := by
  cases step with
  | accept free admitted offered routed accepted =>
    obtain ⟨index, opened, sameRoute, inside, room, rfl⟩ := submit_eq_accepted accepted
    cases Except.ok.inj (sameRoute.symm.trans routed)
    exact .accepted _ _ opened rfl routed inside room rfl rfl rfl rfl offered rfl
  | refuse refusal free admitted offered refused =>
    have same := submit_eq_refused refused (by cases refusal <;> simp [Refusal.submission])
    exact .refused _ refusal rfl same rfl rfl rfl rfl
  | report => exact .nothing rfl rfl rfl rfl (noteEach_store _ _)
  | start taken =>
    obtain ⟨rest, inside, idle, queue, rfl⟩ := take_eq_some taken
    exact .started _ _ rest inside idle queue rfl rfl rfl rfl rfl
  | stop taken =>
    obtain ⟨rest, inside, idle, queue, rfl⟩ := take_eq_some taken
    exact .stopped _ rest inside idle queue rfl rfl rfl rfl rfl
  | move running moved =>
    obtain ⟨inside, active⟩ := running?_eq_some.mp running
    exact .moved _ _ _ inside active moved (setWorker_eq inside _) rfl rfl rfl
  | finish running free ended =>
    obtain ⟨inside, active⟩ := running?_eq_some.mp running
    exact .ended _ _ _ inside active (setWorker_eq inside _) rfl rfl rfl
      ⟨_, ended, noteEach_store _ _⟩
  | close policy free opened => exact .closed policy opened rfl rfl rfl rfl rfl
  | closeAgain => exact .nothing rfl rfl rfl rfl rfl
  | discard active stage queued removed =>
    obtain ⟨entry, rest, inside, queue, rfl⟩ := discard_eq_some removed
    obtain ⟨rfl, rfl⟩ := List.cons.inj (queued.symm.trans queue)
    exact .removed _ _ _ inside queue rfl rfl rfl _ active stage rfl rfl
  | emptied active stage empty =>
    refine .passed rfl rfl rfl _ active ?_ rfl rfl
    intro lane found
    cases stage.symm.trans found
    exact discard_eq_none.mp empty
  | tell active stage =>
    exact .passed rfl rfl rfl _ active (by simp [stage]) rfl (noteEach_store _ _)
  | mark active stage placed =>
    obtain ⟨inside, room, rfl⟩ := placeStop_eq_some placed
    exact .marked _ inside room rfl rfl rfl _ active stage rfl rfl
  | skipMark active stage =>
    exact .passed rfl rfl rfl _ active (by simp [stage]) rfl (noteEach_store _ _)
  | join active stage => exact .passed rfl rfl rfl _ active (by simp [stage]) rfl rfl
  | outlast active stage =>
    exact .passed rfl rfl rfl _ active (by simp [stage]) rfl (noteEach_store _ _)
  | leave active stage =>
    exact .passed rfl rfl rfl _ active (by simp [stage]) rfl (noteEach_store _ _)

/-- What makes an event happen. -/
def Event.Cause (conduct : Conduct J σ) (system : System J σ) : Event J → Prop
  | .accepted ticket lane => system.pool.closed = false ∧
    ticket.key.lane system.pool.spread system.pool.lanes.length = .ok lane ∧
    conduct.offers ticket.key ticket.job
  | .refused ticket _ => ticket.number = system.issued
  | .started number lane => system.pool.workerAt lane = .idle ∧
    ∃ ticket rest, system.pool.queueAt lane = .job ticket :: rest ∧ ticket.number = number
  | .ended number lane _ => ∃ ticket,
    system.pool.workerAt lane = .running ticket ∧ ticket.number = number
  | .discarded number lane => (∃ closing,
      system.closing = some closing ∧ closing.stage = .emptying lane) ∧
    ∃ ticket rest, system.pool.queueAt lane = .job ticket :: rest ∧ ticket.number = number
  | .marked lane => ∃ closing, system.closing = some closing ∧ closing.stage = .marking lane
  | .markDiscarded lane => (∃ closing,
      system.closing = some closing ∧ closing.stage = .emptying lane) ∧
    ∃ rest, system.pool.queueAt lane = .stop :: rest

/-- A turn logs nothing, or one event that has its cause. -/
theorem Effect.log (effect : Effect conduct system next) :
    next.log = system.log ∨
      ∃ event, next.log = system.log ++ [event] ∧ event.Cause conduct system := by
  cases effect with
  | nothing _ log => exact .inl log
  | accepted _ _ opened _ routed _ _ _ log _ _ offered =>
    exact .inr ⟨_, log, opened, routed, offered⟩
  | refused _ _ number _ log => exact .inr ⟨_, log, number⟩
  | started ticket _ rest _ idle queue _ log => exact .inr ⟨_, log, idle, ticket, rest, queue, rfl⟩
  | stopped _ _ _ _ _ _ log => exact .inl log
  | moved _ _ _ _ _ _ _ log => exact .inl log
  | ended ticket _ _ _ running _ log => exact .inr ⟨_, log, ticket, running, rfl⟩
  | closed _ _ _ log => exact .inl log
  | removed entry _ rest _ queue _ log _ closing active stage =>
    cases entry with
    | job ticket => exact .inr ⟨_, log, ⟨closing, active, stage⟩, ticket, rest, queue, rfl⟩
    | stop => exact .inr ⟨_, log, ⟨closing, active, stage⟩, rest, queue⟩
  | marked _ _ _ _ log _ closing active stage => exact .inr ⟨_, log, closing, active, stage⟩
  | passed _ log => exact .inl log

theorem Effect.logged (effect : Effect conduct system next) {event : Event J}
    (member : event ∈ next.log) : event ∈ system.log ∨ event.Cause conduct system := by
  rcases effect.log with same | ⟨added, grown, cause⟩
  · exact .inl (same ▸ member)
  · rw [grown, List.mem_append] at member
    rcases member with old | new
    · exact .inl old
    · cases List.mem_singleton.mp new
      exact .inr cause

/-- A turn changes neither the name of a pool nor its size, its capacity or its spread. -/
theorem Step.frame (step : Step conduct system next) :
    next.pool.name = system.pool.name ∧ next.pool.capacity = system.pool.capacity ∧
      next.pool.spread = system.pool.spread ∧
      next.pool.lanes.length = system.pool.lanes.length := by
  cases step.effect with
  | nothing pool => simp [pool]
  | accepted _ _ _ _ _ _ _ pool => simp [pool]
  | refused _ _ _ pool => simp [pool]
  | started _ _ _ _ _ _ pool => simp [pool]
  | stopped _ _ _ _ _ pool => simp [pool]
  | moved _ _ _ _ _ _ pool => simp [pool]
  | ended _ _ _ _ _ pool => simp [pool]
  | closed _ _ pool => simp [pool]
  | removed _ _ _ _ _ pool => simp [pool]
  | marked _ _ _ pool => simp [pool]
  | passed pool => simp [pool]

theorem Run.frame {first last : System J σ} (run : Run conduct first last) :
    last.pool.name = first.pool.name ∧ last.pool.capacity = first.pool.capacity ∧
      last.pool.spread = first.pool.spread ∧
      last.pool.lanes.length = first.pool.lanes.length := by
  induction run with
  | here => exact ⟨rfl, rfl, rfl, rfl⟩
  | turn _ step ih =>
    obtain ⟨name, capacity, spread, size⟩ := step.frame
    exact ⟨name.trans ih.1, capacity.trans ih.2.1, spread.trans ih.2.2.1, size.trans ih.2.2.2⟩

theorem Step.closed (step : Step conduct system next) (closed : system.pool.closed = true) :
    next.pool.closed = true := by
  cases step.effect with
  | nothing pool => simp [pool, closed]
  | accepted _ _ opened => simp [closed] at opened
  | refused _ _ _ pool => simp [pool, closed]
  | started _ _ _ _ _ _ pool => simp [pool, closed]
  | stopped _ _ _ _ _ pool => simp [pool, closed]
  | moved _ _ _ _ _ _ pool => simp [pool, closed]
  | ended _ _ _ _ _ pool => simp [pool, closed]
  | closed _ opened => simp [closed] at opened
  | removed _ _ _ _ _ pool => simp [pool, closed]
  | marked _ _ _ pool => simp [pool, closed]
  | passed pool => simp [pool, closed]

/-- A queue loses entries at its front; at its end it gains an accepted job or the marker. -/
theorem Effect.queue (effect : Effect conduct system next) (lane : Nat) :
    next.pool.queueAt lane <:+ system.pool.queueAt lane ∨
      (system.pool.queueAt lane).length < system.pool.capacity ∧
        ((∃ ticket, system.pool.closed = false ∧
            next.log = system.log ++ [.accepted ticket lane] ∧
            next.pool.queueAt lane = system.pool.queueAt lane ++ [.job ticket]) ∨
          ∃ closing, system.closing = some closing ∧ closing.stage = .marking lane ∧
            next.log = system.log ++ [.marked lane] ∧
            next.pool.queueAt lane = system.pool.queueAt lane ++ [.stop]) := by
  cases effect with
  | nothing pool => exact .inl (pool ▸ List.suffix_refl _)
  | accepted ticket index opened _ _ inside room pool log =>
    by_cases same : lane = index
    · subst same
      exact .inr ⟨room, .inl ⟨ticket, opened, log, by simp [pool, queueAt_setLane inside]⟩⟩
    · exact .inl (by simp [pool, queueAt_setLane inside, same])
  | refused _ _ _ pool => exact .inl (pool ▸ List.suffix_refl _)
  | started _ _ rest inside _ queue pool =>
    exact .inl (pool ▸ queueAt_setLane_suffix inside (queue ▸ List.suffix_cons _ rest) lane)
  | stopped _ rest inside _ queue pool =>
    exact .inl (pool ▸ queueAt_setLane_suffix inside (queue ▸ List.suffix_cons _ rest) lane)
  | moved _ _ _ inside _ _ pool =>
    exact .inl (pool ▸ queueAt_setLane_suffix inside (List.suffix_refl _) lane)
  | ended _ _ _ inside _ pool =>
    exact .inl (pool ▸ queueAt_setLane_suffix inside (List.suffix_refl _) lane)
  | closed _ _ pool => exact .inl (by simp [pool])
  | removed _ _ rest inside queue pool =>
    exact .inl (pool ▸ queueAt_setLane_suffix inside (queue ▸ List.suffix_cons _ rest) lane)
  | marked index inside room pool log _ closing active stage =>
    by_cases same : lane = index
    · subst same
      exact .inr ⟨room, .inr ⟨closing, active, stage, log, by simp [pool, queueAt_setLane inside]⟩⟩
    · exact .inl (by simp [pool, queueAt_setLane inside, same])
  | passed pool => exact .inl (pool ▸ List.suffix_refl _)

/-- A job that stands in a queue stood there before or has just been accepted. -/
theorem Effect.queued (effect : Effect conduct system next) {ticket : Ticket J} {lane : Nat}
    (member : .job ticket ∈ next.pool.queueAt lane) :
    .job ticket ∈ system.pool.queueAt lane ∨
      system.pool.closed = false ∧ next.log = system.log ++ [.accepted ticket lane] := by
  rcases effect.queue lane with shorter | ⟨_, ⟨other, opened, log, queue⟩ | ⟨_, _, _, _, queue⟩⟩
  · exact .inl (shorter.subset member)
  · rw [queue, List.mem_append] at member
    rcases member with old | new
    · exact .inl old
    · cases List.mem_singleton.mp new
      exact .inr ⟨opened, log⟩
  · rw [queue] at member
    exact .inl (by simpa using member)

/-- A worker goes on as before, takes what stands first in its queue, or comes further with its
job or to the end of it. -/
theorem Effect.worker (effect : Effect conduct system next) (lane : Nat) :
    next.pool.workerAt lane = system.pool.workerAt lane ∨
      (∃ entry, system.pool.workerAt lane = .idle ∧
        system.pool.queueAt lane = entry :: next.pool.queueAt lane ∧
        next.pool.workerAt lane = entry.worker) ∨
      ∃ ticket, system.pool.workerAt lane = .running ticket ∧
        ((∃ job, next.pool.workerAt lane = .running { ticket with job } ∧
            conduct.moves ticket system.office job next.office) ∨
          ∃ ending, next.pool.workerAt lane = ending.worker ∧
            next.log = system.log ++ [.ended ticket.number lane ending]) := by
  cases effect with
  | nothing pool => exact .inl (pool ▸ rfl)
  | accepted _ _ _ _ _ inside _ pool =>
    exact .inl (pool ▸ workerAt_setLane_same inside rfl lane)
  | refused _ _ _ pool => exact .inl (pool ▸ rfl)
  | started ticket index rest inside idle queue pool =>
    rw [pool, workerAt_setLane inside, queueAt_setLane inside]
    by_cases same : lane = index
    · subst same
      exact .inr (.inl ⟨.job ticket, idle, by simp [queue], by simp [Entry.worker]⟩)
    · exact .inl (if_neg same)
  | stopped index rest inside idle queue pool =>
    rw [pool, workerAt_setLane inside, queueAt_setLane inside]
    by_cases same : lane = index
    · subst same
      exact .inr (.inl ⟨.stop, idle, by simp [queue], by simp [Entry.worker]⟩)
    · exact .inl (if_neg same)
  | moved ticket job index inside running moves pool =>
    rw [pool, workerAt_setLane inside]
    by_cases same : lane = index
    · subst same
      exact .inr (.inr ⟨ticket, running, .inl ⟨job, by simp, moves⟩⟩)
    · exact .inl (if_neg same)
  | ended ticket ending index inside running pool log =>
    rw [pool, workerAt_setLane inside]
    by_cases same : lane = index
    · subst same
      exact .inr (.inr ⟨ticket, running, .inr ⟨ending, by simp, log⟩⟩)
    · exact .inl (if_neg same)
  | closed _ _ pool => exact .inl (pool ▸ rfl)
  | removed _ _ _ inside _ pool => exact .inl (pool ▸ workerAt_setLane_same inside rfl lane)
  | marked _ inside _ pool => exact .inl (pool ▸ workerAt_setLane_same inside rfl lane)
  | passed pool => exact .inl (pool ▸ rfl)

/-- A job that runs ran before, perhaps less far, or has just been taken from its queue. -/
theorem Effect.running (effect : Effect conduct system next) {ticket : Ticket J} {lane : Nat}
    (active : next.pool.workerAt lane = .running ticket) :
    system.pool.workerAt lane = .running ticket ∨ .job ticket ∈ system.pool.queueAt lane ∨
      ∃ old job, system.pool.workerAt lane = .running old ∧ ticket = { old with job } ∧
        conduct.moves old system.office job next.office := by
  rcases effect.worker lane with same | ⟨entry, _, queue, taken⟩ |
    ⟨old, before, ⟨job, further, moves⟩ | ⟨ending, ended, _⟩⟩
  · exact .inl (same ▸ active)
  · cases entry with
    | job other =>
      cases taken.symm.trans active
      exact .inr (.inl (queue ▸ List.mem_cons_self))
    | stop => cases taken.symm.trans active
  · cases further.symm.trans active
    exact .inr (.inr ⟨old, job, before, rfl, moves⟩)
  · rw [ended] at active
    cases ending <;> cases active

end Transcript.Pool
