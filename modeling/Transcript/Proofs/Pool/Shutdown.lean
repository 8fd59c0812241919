import Transcript.Proofs.Pool.Numbers

namespace Transcript.Pool

variable {J σ : Type} {conduct : Conduct J σ} {system next : System J σ}

def Stage.hasMarked (lane : Nat) : Stage → Prop
  | .emptying _ | .reporting => False
  | .marking index => lane < index
  | .joining _ | .leaving | .returned => True

def Stage.hasEmptied (lane : Nat) : Stage → Prop
  | .emptying index => lane < index
  | _ => True

/-- The lane has been emptied or is being emptied. -/
def Stage.hasReached (lane : Nat) : Stage → Prop
  | .emptying index => lane ≤ index
  | _ => True

theorem Stage.hasMarked_next {stage : Stage} {lane : Nat} (lanes : Nat)
    (marked : stage.hasMarked lane) : (stage.next lanes).hasMarked lane := by
  cases stage with
  | emptying => cases marked
  | reporting => cases marked
  | marking index =>
    have before : lane < index := marked
    simp only [Stage.next]
    split
    · exact Nat.lt_succ_of_lt before
    · trivial
  | joining index =>
    simp only [Stage.next]
    split <;> trivial
  | leaving => trivial
  | returned => trivial

theorem Stage.hasMarked_marking (lane lanes : Nat) :
    ((Stage.marking lane).next lanes).hasMarked lane := by
  simp only [Stage.next]
  split
  · exact Nat.lt_succ_self lane
  · trivial

theorem Stage.hasReached_next {stage : Stage} {lane : Nat} (lanes : Nat)
    (reached : stage.hasReached lane) : (stage.next lanes).hasReached lane := by
  cases stage with
  | emptying index =>
    have before : lane ≤ index := reached
    simp only [Stage.next]
    split
    · exact Nat.le_succ_of_le before
    · trivial
  | reporting => trivial
  | marking index =>
    simp only [Stage.next]
    split <;> trivial
  | joining index =>
    simp only [Stage.next]
    split <;> trivial
  | leaving => trivial
  | returned => trivial

theorem Stage.hasEmptied_of_next {stage : Stage} {lane lanes : Nat} (inside : lane < lanes)
    (emptied : (stage.next lanes).hasEmptied lane) :
    stage.hasEmptied lane ∨ stage = .emptying lane := by
  cases stage with
  | emptying index =>
    have before : lane < index + 1 := by
      simp only [Stage.next] at emptied
      split at emptied
      · exact emptied
      · omega
    rcases Nat.lt_succ_iff_lt_or_eq.mp before with earlier | rfl
    · exact .inl earlier
    · exact .inr rfl
  | _ => exact .inl trivial

theorem Stage.emptying_of_next {stage : Stage} {lane lanes : Nat}
    (emptying : stage.next lanes = .emptying lane) : ∃ before, stage = .emptying before := by
  cases stage with
  | emptying before => exact ⟨before, rfl⟩
  | marking => simp only [Stage.next] at emptying; split at emptying <;> cases emptying
  | joining => simp only [Stage.next] at emptying; split at emptying <;> cases emptying
  | _ => cases emptying

def ClosesOnce (system : System J σ) : Prop := system.pool.closed = system.closing.isSome

theorem Step.closesOnce (step : Step conduct system next) (once : ClosesOnce system) :
    ClosesOnce next := by
  unfold ClosesOnce at once ⊢
  cases step.effect with
  | nothing pool _ _ closing => rw [pool, closing, once]
  | accepted _ _ _ _ _ _ _ pool _ _ closing => simp [pool, closing, once]
  | refused _ _ _ pool _ _ closing => rw [pool, closing, once]
  | started _ _ _ _ _ _ pool _ _ closing => simp [pool, closing, once]
  | stopped _ _ _ _ _ pool _ _ closing => simp [pool, closing, once]
  | moved _ _ _ _ _ _ pool _ _ closing => simp [pool, closing, once]
  | ended _ _ _ _ _ pool _ _ closing => simp [pool, closing, once]
  | closed _ _ pool _ _ closing => simp [pool, closing]
  | removed _ _ _ _ _ pool _ _ _ active _ counted => simp [pool, counted, once, active]
  | marked _ _ _ pool _ _ _ active _ passed => simp [pool, passed, once, active]
  | passed pool _ _ _ active _ passed => simp [pool, passed, once, active]

theorem ClosesOnce.open_iff (once : ClosesOnce system) :
    system.pool.closed = false ↔ system.closing = none := by
  rw [once]
  cases system.closing <;> simp

def marks (log : List (Event J)) : List Nat :=
  log.filterMap fun
    | .marked lane => some lane
    | _ => none

theorem mem_marks {log : List (Event J)} {lane : Nat} :
    lane ∈ marks log ↔ .marked lane ∈ log := by
  simp only [marks, List.mem_filterMap]
  constructor
  · rintro ⟨event, member, found⟩
    cases event <;> simp at found
    subst found
    exact member
  · intro member
    exact ⟨_, member, rfl⟩

/-- A lane is marked once, when nothing is removed any more, and its marker stands last. -/
structure MarksLast (system : System J σ) : Prop where
  once : (marks system.log).Nodup
  earned : ∀ lane ∈ marks system.log, ∃ closing,
    system.closing = some closing ∧ closing.stage.hasMarked lane
  placed : ∀ lane, .stop ∈ system.pool.queueAt lane → lane ∈ marks system.log
  last : ∀ lane, .stop ∉ (system.pool.queueAt lane).dropLast
  kept : ∀ lane, .markDiscarded lane ∉ system.log

theorem MarksLast.unmarked (markers : MarksLast system) {lane : Nat}
    (early : ∀ closing, system.closing = some closing → ¬ closing.stage.hasMarked lane) :
    lane ∉ marks system.log ∧ .stop ∉ system.pool.queueAt lane := by
  have absent : lane ∉ marks system.log := by
    intro marked
    obtain ⟨closing, active, passed⟩ := markers.earned lane marked
    exact early closing active passed
  exact ⟨absent, fun stop => absent (markers.placed lane stop)⟩

theorem stop_not_mem_dropLast_of_suffix {before after : List (Entry J)}
    (last : .stop ∉ before.dropLast) (shorter : after <:+ before) : .stop ∉ after.dropLast := by
  obtain ⟨front, rfl⟩ := shorter
  cases after with
  | nil => simp
  | cons entry rest =>
    rw [List.dropLast_append_of_ne_nil (by simp)] at last
    exact fun member => last (List.mem_append_right _ member)

/-- What a turn adds to the markers: the lane that the shutdown is marking, or none. -/
theorem Effect.marks (effect : Effect conduct system next) :
    marks next.log = marks system.log ∨ ∃ closing lane, system.closing = some closing ∧
      closing.stage = .marking lane ∧ marks next.log = marks system.log ++ [lane] ∧
      next.closing = some (closing.proceed system.pool.lanes.length) := by
  cases effect with
  | marked lane _ _ _ log _ closing active stage passed =>
    exact .inr ⟨closing, lane, active, stage, by simp [log, Pool.marks], passed⟩
  | removed entry _ _ _ _ _ log =>
    exact .inl (by cases entry <;> simp [log, Pool.marks, Event.removal])
  | _ => exact .inl (by simp [*, Pool.marks])

/-- Nothing is being shut down, or a shutdown begins, or it goes on, or it stays where it
is; it goes on from a queue only when that is empty. -/
theorem Effect.closing (effect : Effect conduct system next) (once : ClosesOnce system) :
    (system.closing = none ∧ next.closing = none) ∨
      (∃ policy, system.closing = none ∧ next.closing = some (.start policy)) ∨
      ∃ closing after, system.closing = some closing ∧ next.closing = some after ∧
        after.policy = closing.policy ∧ (after.stage = closing.stage ∨
          after.stage = closing.stage.next system.pool.lanes.length ∧
            ∀ lane, closing.stage = .emptying lane → system.pool.queueAt lane = []) := by
  have kept (same : next.closing = system.closing) :
      (system.closing = none ∧ next.closing = none) ∨ ∃ closing,
        system.closing = some closing ∧ next.closing = some closing := by
    rw [same]
    cases system.closing with
    | none => exact .inl ⟨rfl, rfl⟩
    | some closing => exact .inr ⟨closing, rfl, rfl⟩
  cases effect with
  | closed policy opened _ _ _ begun => exact .inr (.inl ⟨policy, once.open_iff.mp opened, begun⟩)
  | removed _ _ _ _ _ _ _ _ closing active _ counted =>
    exact .inr (.inr ⟨closing, _, active, counted, rfl, .inl rfl⟩)
  | marked _ _ _ _ _ _ closing active stage passed =>
    exact .inr (.inr ⟨closing, _, active, passed, rfl, .inr ⟨rfl, by simp [stage]⟩⟩)
  | passed _ _ _ closing active empty passed =>
    exact .inr (.inr ⟨closing, _, active, passed, rfl, .inr ⟨rfl, empty⟩⟩)
  | _ =>
    rcases kept ‹_› with none | ⟨closing, active, found⟩
    · exact .inl none
    · exact .inr (.inr ⟨closing, closing, active, found, rfl, .inl rfl⟩)

/-- A shutdown that is under way stays under way and keeps its policy. -/
theorem Effect.goes_on (effect : Effect conduct system next) (once : ClosesOnce system)
    {closing : Closing} (active : system.closing = some closing) :
    ∃ after, next.closing = some after ∧ after.policy = closing.policy ∧
      (after.stage = closing.stage ∨
        after.stage = closing.stage.next system.pool.lanes.length) := by
  rcases effect.closing once with
    ⟨absent, _⟩ | ⟨_, absent, _⟩ | ⟨other, after, found, next, policy, stage⟩
  · cases absent.symm.trans active
  · cases absent.symm.trans active
  · cases active.symm.trans found
    exact ⟨after, next, policy, stage.imp id And.left⟩

theorem Step.marksLast (step : Step conduct system next) (once : ClosesOnce system)
    (markers : MarksLast system) : MarksLast next := by
  have effect := step.effect
  have unmarkedOpen (opened : system.pool.closed = false) (lane : Nat) :
      .stop ∉ system.pool.queueAt lane := by
    refine (markers.unmarked fun closing active => ?_).2
    rw [once.open_iff.mp opened] at active
    cases active
  have unmarkedAt {closing : Closing} {lane : Nat} (active : system.closing = some closing)
      (stage : closing.stage = .marking lane) :
      lane ∉ marks system.log ∧ .stop ∉ system.pool.queueAt lane := by
    refine markers.unmarked fun other found => ?_
    cases active.symm.trans found
    rw [stage]
    exact Nat.lt_irrefl lane
  refine ⟨?_, ?_, ?_, ?_, ?_⟩
  · rcases effect.marks with same | ⟨closing, lane, active, stage, added, _⟩
    · rw [same]
      exact markers.once
    · rw [added, ← List.concat_eq_append]
      exact markers.once.concat (unmarkedAt active stage).1
  · intro lane marked
    have old (member : lane ∈ marks system.log) : ∃ closing,
        next.closing = some closing ∧ closing.stage.hasMarked lane := by
      obtain ⟨closing, active, passed⟩ := markers.earned lane member
      obtain ⟨after, found, _, same | further⟩ := effect.goes_on once active
      · exact ⟨after, found, same ▸ passed⟩
      · exact ⟨after, found, further ▸ Stage.hasMarked_next _ passed⟩
    rcases effect.marks with same | ⟨closing, index, active, stage, added, passed⟩
    · exact old (same ▸ marked)
    · rw [added, List.mem_append] at marked
      rcases marked with before | now
      · exact old before
      · cases List.mem_singleton.mp now
        refine ⟨_, passed, ?_⟩
        rw [Closing.proceed, stage]
        exact Stage.hasMarked_marking _ _
  · intro lane stop
    have kept (member : lane ∈ marks system.log) : lane ∈ marks next.log := by
      rw [mem_marks] at member ⊢
      exact step.keepsLog member
    rcases effect.queue lane with
      shorter | ⟨_, ⟨ticket, opened, _, queue⟩ | ⟨closing, _, _, log, queue⟩⟩
    · exact kept (markers.placed lane (shorter.subset stop))
    · exact absurd (by simpa [queue] using stop) (unmarkedOpen opened lane)
    · simp [mem_marks, log]
  · intro lane
    rcases effect.queue lane with
      shorter | ⟨_, ⟨ticket, opened, _, queue⟩ | ⟨closing, active, stage, _, queue⟩⟩
    · exact stop_not_mem_dropLast_of_suffix (markers.last lane) shorter
    · rw [queue, List.dropLast_concat]
      exact unmarkedOpen opened lane
    · rw [queue, List.dropLast_concat]
      exact (unmarkedAt active stage).2
  · intro lane removed
    rcases effect.logged removed with old | ⟨⟨closing, active, stage⟩, rest, queue⟩
    · exact markers.kept lane old
    · -- nothing is removed after the first marker
      have absent : .stop ∉ system.pool.queueAt lane := by
        refine (markers.unmarked fun other found => ?_).2
        cases active.symm.trans found
        rw [stage]
        exact id
      exact absent (queue ▸ List.mem_cons_self)

def discarded (log : List (Event J)) : List Nat :=
  log.filterMap fun
    | .discarded number _ => some number
    | _ => none

def System.removed (system : System J σ) : Nat := (system.closing.map Closing.count).getD 0

/-- Only an abandoning shutdown removes anything, lane by lane, and a lane that it has emptied
stays empty; what it counts is the jobs it discards. -/
structure RemovesInOrder (system : System J σ) : Prop where
  policy : ∀ closing lane, system.closing = some closing → closing.stage = .emptying lane →
    closing.policy = .abandon
  reached : ∀ number lane, .discarded number lane ∈ system.log → ∃ closing,
    system.closing = some closing ∧ closing.policy = .abandon ∧ closing.stage.hasReached lane
  emptied : ∀ closing lane ticket, system.closing = some closing → closing.policy = .abandon →
    closing.stage.hasEmptied lane → .job ticket ∉ system.pool.queueAt lane
  counted : system.removed = (discarded system.log).length

theorem Effect.counts (effect : Effect conduct system next) (once : ClosesOnce system)
    (markers : MarksLast system) (counted : system.removed = (discarded system.log).length) :
    next.removed = (discarded next.log).length := by
  unfold System.removed at counted ⊢
  cases effect with
  | closed policy opened _ log _ begun =>
    rw [once.open_iff.mp opened] at counted
    simpa [begun, log, Closing.start] using counted
  | removed entry lane rest _ queue _ log _ closing active stage grown =>
    cases entry with
    | job ticket => simpa [grown, log, Event.removal, discarded, active] using counted
    | stop =>
      have absent : .stop ∉ system.pool.queueAt lane := by
        refine (markers.unmarked fun other found => ?_).2
        cases active.symm.trans found
        rw [stage]
        exact id
      exact absurd (queue ▸ List.mem_cons_self) absent
  | marked _ _ _ _ log _ closing active _ passed =>
    simpa [passed, log, Closing.proceed, discarded, active] using counted
  | passed _ log _ closing active _ passed =>
    simpa [passed, log, Closing.proceed, active] using counted
  | _ => simp [*, discarded]

theorem Step.removesInOrder (step : Step conduct system next) (once : ClosesOnce system)
    (markers : MarksLast system) (order : RemovesInOrder system) : RemovesInOrder next := by
  have effect := step.effect
  refine ⟨?_, ?_, ?_, effect.counts once markers order.counted⟩
  · intro after lane found stage
    rcases effect.closing once with
      ⟨_, absent⟩ | ⟨policy, _, begun⟩ | ⟨closing, other, active, further, policy, progress⟩
    · cases absent.symm.trans found
    · cases begun.symm.trans found
      cases policy <;> simp_all [Closing.start]
    · cases further.symm.trans found
      rw [policy]
      rcases progress with same | ⟨passed, _⟩
      · exact order.policy closing lane active (same.symm.trans stage)
      · obtain ⟨before, earlier⟩ := Stage.emptying_of_next (passed.symm.trans stage)
        exact order.policy closing before active earlier
  · intro number lane gone
    have kept {closing : Closing} (active : system.closing = some closing)
        (policy : closing.policy = .abandon) (reached : closing.stage.hasReached lane) :
        ∃ after, next.closing = some after ∧ after.policy = .abandon ∧
          after.stage.hasReached lane := by
      obtain ⟨after, found, same, stage | further⟩ := effect.goes_on once active
      · exact ⟨after, found, same.trans policy, stage ▸ reached⟩
      · exact ⟨after, found, same.trans policy, further ▸ Stage.hasReached_next _ reached⟩
    rcases effect.logged gone with old | ⟨⟨closing, active, stage⟩, _⟩
    · obtain ⟨closing, active, policy, reached⟩ := order.reached number lane old
      exact kept active policy reached
    · refine kept active (order.policy closing lane active stage) ?_
      rw [stage]
      exact Nat.le_refl lane
  · intro after lane ticket found policy emptied member
    rcases effect.closing once with
      ⟨_, absent⟩ | ⟨_, _, begun⟩ | ⟨closing, other, active, further, same, progress⟩
    · cases absent.symm.trans found
    · cases begun.symm.trans found
      simp only [Closing.start] at policy emptied
      subst policy
      exact absurd emptied (Nat.not_lt_zero lane)
    · cases further.symm.trans found
      have old : .job ticket ∈ system.pool.queueAt lane := by
        rcases effect.queued member with old | ⟨opened, _⟩
        · exact old
        · rw [once.open_iff.mp opened] at active
          cases active
      rcases progress with stay | ⟨passed, empty⟩
      · exact order.emptied closing lane ticket active (same ▸ policy) (stay ▸ emptied) old
      · have inside : lane < system.pool.lanes.length := by
          by_contra outside
          rw [queueAt_outside (Nat.le_of_not_lt outside)] at old
          cases old
        rcases Stage.hasEmptied_of_next inside (passed ▸ emptied) with before | now
        · exact order.emptied closing lane ticket active (same ▸ policy) before old
        · rw [empty lane now] at old
          cases old

section Fresh

variable {name : String} {workers queueSize : Int} {spread : Value → Int}
variable {pool : Pool (Ticket J)} {office : Office σ}
variable (created : create name workers queueSize spread = .ok pool)
  (run : Run conduct (.start pool office) system)
include created run

theorem Run.closesOnce : ClosesOnce system := by
  refine run.keeps ?_ fun once step => step.closesOnce once
  obtain ⟨_, _, rfl⟩ := create_eq_ok_iff.mp created
  rfl

theorem Run.marksLast : MarksLast system := by
  induction run with
  | here => constructor <;> simp [System.start, marks, queueAt_create created]
  | turn run step ih => exact step.marksLast (run.closesOnce created) ih

theorem Run.removesInOrder : RemovesInOrder system := by
  induction run with
  | here => constructor <;> simp [System.start, System.removed, discarded]
  | turn run step ih =>
    exact step.removesInOrder (run.closesOnce created) (run.marksLast created) ih

end Fresh

end Transcript.Pool
