import Transcript.Proofs.Pool.Shutdown

namespace Transcript.Pool

variable {J σ : Type} {conduct : Conduct J σ} {system next later : System J σ}

inductive Standing where
  | rejected
  | queued
  | running
  | ended
  | discarded
deriving DecidableEq, Repr

/-- The accepted jobs of a lane by their standing. -/
def System.inLane (system : System J σ) (lane : Nat) : Standing → List Nat
  | .rejected => []
  | .queued => queuedIn system.pool lane
  | .running => runningIn system.pool lane
  | .ended => endedIn system.log lane
  | .discarded => discardedIn system.log lane

/-- A call was turned away, or its job is in some lane. -/
def System.Stands (system : System J σ) (number : Nat) : Standing → Prop
  | .rejected => ∃ ticket refusal, .refused ticket refusal ∈ system.log ∧ ticket.number = number
  | standing => ∃ lane, number ∈ system.inLane lane standing

theorem mem_calls {log : List (Event J)} {number : Nat} :
    number ∈ calls log ↔ (∃ ticket lane, .accepted ticket lane ∈ log ∧ ticket.number = number) ∨
      ∃ ticket refusal, .refused ticket refusal ∈ log ∧ ticket.number = number := by
  simp only [calls, List.mem_filterMap]
  constructor
  · rintro ⟨event, member, found⟩
    cases event <;> simp at found
    · exact .inl ⟨_, _, member, found⟩
    · exact .inr ⟨_, _, member, found⟩
  · rintro (⟨ticket, lane, member, rfl⟩ | ⟨ticket, refusal, member, rfl⟩)
    · exact ⟨_, member, rfl⟩
    · exact ⟨_, member, rfl⟩

section Fresh

variable {name : String} {workers queueSize : Int} {spread : Value → Int}
variable {pool : Pool (Ticket J)} {office : Office σ}
variable (created : create name workers queueSize spread = .ok pool)
  (run : Run conduct (.start pool office) system)
include created run

/-- The accepted jobs of a lane are those that ended, run, were discarded and still wait. -/
theorem Run.accepted_perm (lane : Nat) : (acceptedIn system.log lane).Perm
    (endedIn system.log lane ++ runningIn system.pool lane ++ discardedIn system.log lane ++
      queuedIn system.pool lane) := by
  rw [run.servesInOrder created lane, ← run.takesTurns created lane]
  exact (leftIn_perm _ _).append_right _

theorem Run.accepted_of_inLane {lane number : Nat} {standing : Standing}
    (member : number ∈ system.inLane lane standing) : number ∈ acceptedIn system.log lane := by
  rw [(run.accepted_perm created lane).mem_iff]
  cases standing with
  | rejected => cases member
  | queued => exact List.mem_append_right _ member
  | running =>
    exact List.mem_append_left _ (List.mem_append_left _ (List.mem_append_right _ member))
  | ended =>
    exact List.mem_append_left _ (List.mem_append_left _ (List.mem_append_left _ member))
  | discarded => exact List.mem_append_left _ (List.mem_append_right _ member)

/-- An accepted job stands in its lane in one way. -/
theorem Run.stands_in_lane {lane number : Nat} (accepted : number ∈ acceptedIn system.log lane) :
    ∃! standing, number ∈ system.inLane lane standing := by
  have total : (acceptedIn system.log lane).count number = 1 :=
    List.count_eq_one_of_mem (run.numbersCalls.nodup_acceptedIn lane) accepted
  simp only [(run.accepted_perm created lane).count_eq, List.count_append] at total
  have none : (system.inLane lane .rejected).count number = 0 := rfl
  have apart (left right : Standing) (first : 0 < (system.inLane lane left).count number)
      (second : 0 < (system.inLane lane right).count number) : left = right := by
    cases left <;> cases right <;> first | rfl | (simp only [System.inLane] at *; omega)
  have somewhere : ∃ standing, 0 < (system.inLane lane standing).count number := by
    by_contra nowhere
    have empty (standing : Standing) : (system.inLane lane standing).count number = 0 :=
      Nat.eq_zero_of_not_pos fun positive => nowhere ⟨standing, positive⟩
    have ended := empty .ended
    have running := empty .running
    have discarded := empty .discarded
    have queued := empty .queued
    simp only [System.inLane] at ended running discarded queued
    omega
  obtain ⟨standing, here⟩ := somewhere
  refine ⟨standing, List.count_pos_iff.mp here, ?_⟩
  intro other member
  exact apart other standing (List.count_pos_iff.mpr member) here

theorem Run.stands_once {number : Nat} (handedIn : number < system.issued) :
    ∃! standing, system.Stands number standing := by
  have called : number ∈ calls system.log := by
    rw [run.numbersCalls]
    exact List.mem_range.mpr handedIn
  rcases mem_calls.mp called with ⟨ticket, lane, accepted, rfl⟩ | ⟨ticket, refusal, refused, rfl⟩
  · obtain ⟨standing, here, only⟩ :=
      run.stands_in_lane created (mem_acceptedIn.mpr ⟨ticket, accepted, rfl⟩)
    refine ⟨standing, ?_, ?_⟩
    · cases standing with
      | rejected => cases here
      | _ => exact ⟨lane, here⟩
    · intro other stands
      have inSomeLane : ∃ index, ticket.number ∈ system.inLane index other := by
        cases other with
        | rejected =>
          obtain ⟨also, refusal, refused, same⟩ := stands
          exact absurd same.symm (run.numbersCalls.not_accepted refused accepted)
        | _ => exact stands
      obtain ⟨index, member⟩ := inSomeLane
      obtain ⟨also, there, same⟩ := mem_acceptedIn.mp (run.accepted_of_inLane created member)
      obtain ⟨rfl, rfl⟩ := run.numbersCalls.accepted_unique there accepted same
      exact only other member
  · refine ⟨.rejected, ⟨ticket, refusal, refused, rfl⟩, ?_⟩
    intro other stands
    cases other with
    | rejected => rfl
    | _ =>
      obtain ⟨lane, member⟩ := stands
      obtain ⟨also, there, same⟩ := mem_acceptedIn.mp (run.accepted_of_inLane created member)
      exact absurd same (run.numbersCalls.not_accepted refused there)

end Fresh

def Bounded (pool : Pool J) : Prop := ∀ lane, (pool.queueAt lane).length ≤ pool.capacity

theorem Step.bounded (step : Step conduct system next) (bounded : Bounded system.pool) :
    Bounded next.pool := by
  intro lane
  obtain ⟨_, capacity, _⟩ := step.frame
  rw [capacity]
  rcases step.effect.queue lane with
    shorter | ⟨room, ⟨ticket, _, _, queue⟩ | ⟨_, _, _, _, queue⟩⟩
  · exact Nat.le_trans shorter.length_le (bounded lane)
  · rw [queue, List.length_append]
    exact room
  · rw [queue, List.length_append]
    exact room

theorem Run.closed (run : Run conduct system later) (closed : system.pool.closed = true) :
    later.pool.closed = true := by
  induction run with
  | here => exact closed
  | turn _ step ih => exact step.closed ih

/-- Once a pool is closed, nothing is accepted any more. -/
theorem Run.none_accepted (run : Run conduct system later) (closed : system.pool.closed = true) :
    ∃ more, later.log = system.log ++ more ∧ ∀ ticket lane, .accepted ticket lane ∉ more := by
  induction run with
  | here => exact ⟨[], by simp, by simp⟩
  | turn run step ih =>
    obtain ⟨more, grown, none⟩ := ih
    rcases step.effect.log with same | ⟨event, added, cause⟩
    · exact ⟨more, same.trans grown, none⟩
    · refine ⟨more ++ [event], by rw [added, grown, List.append_assoc], ?_⟩
      intro ticket lane member
      rcases List.mem_append.mp member with old | new
      · exact none ticket lane old
      · cases List.mem_singleton.mp new
        exact absurd cause.1 (by simp [run.closed closed])

end Transcript.Pool
