import Mathlib.Data.List.Induction
import Mathlib.Data.List.Nodup
import Transcript.Proofs.Pool.Order

namespace Transcript.Pool

variable {J σ : Type} {conduct : Conduct J σ} {system next : System J σ}
variable {name : String} {workers queueSize : Int} {spread : Value → Int}
variable {pool : Pool (Ticket J)} {office : Office σ}

section Fresh

variable (created : create name workers queueSize spread = .ok pool)
  (run : Run conduct (.start pool office) system)
include created run

theorem Run.servesInOrder : ServesInOrder system := by
  refine run.keeps (fun lane => ?_) fun order step => step.servesInOrder order
  simp [System.start, acceptedIn, leftIn, queuedIn, queueAt_create created, numbers]

theorem Run.takesTurns : TakesTurns system := by
  refine run.keeps (fun lane => ?_) fun turns step => step.takesTurns turns
  simp [System.start, startedIn, endedIn, runningIn_of_idle (workerAt_create created lane)]

theorem Run.stemsFrom {became : J → J → Prop} (reflexive : ∀ job, became job job)
    (moves : ∀ {start ticket office job office'}, became start ticket.job →
      conduct.moves ticket office job office' → became start job) :
    StemsFrom became system := by
  refine run.keeps ⟨?_, ?_⟩ fun stems step => step.stemsFrom reflexive moves stems
  · intro lane ticket member
    simp [System.start, queueAt_create created] at member
  · intro lane ticket active
    simp [System.start, workerAt_create created] at active

omit created in
theorem Run.numbersCalls : NumbersCalls system := by
  refine run.keeps ?_ fun counted step => step.numbersCalls counted
  simp [NumbersCalls, System.start, calls]

omit created in
theorem Run.routesByKey : RoutesByKey system := by
  refine run.keeps ?_ fun routes step => step.routesByKey routes
  intro ticket lane accepted
  simp [System.start] at accepted

omit created in
theorem Run.offered {ticket : Ticket J} {lane : Nat}
    (accepted : .accepted ticket lane ∈ system.log) : conduct.offers ticket.key ticket.job := by
  induction run with
  | here => simp [System.start] at accepted
  | turn _ step ih =>
    rcases step.effect.logged accepted with old | ⟨_, _, offered⟩
    · exact ih old
    · exact offered

end Fresh

theorem filterMap_sublist {α β : Type} {narrow wide : α → Option β}
    (included : ∀ item found, narrow item = some found → wide item = some found)
    (items : List α) : (items.filterMap narrow).Sublist (items.filterMap wide) := by
  induction items with
  | nil => exact .refl _
  | cons item rest ih =>
    cases kept : narrow item with
    | some found => simpa [kept, included item found kept] using ih
    | none =>
      cases other : wide item with
      | some found => simpa [kept, other] using ih.cons found
      | none => simpa [kept, other] using ih

theorem acceptedIn_sublist (log : List (Event J)) (lane : Nat) :
    (acceptedIn log lane).Sublist (calls log) := by
  apply filterMap_sublist
  intro event number found
  cases event <;> simp_all

theorem mem_acceptedIn {log : List (Event J)} {lane number : Nat} :
    number ∈ acceptedIn log lane ↔ ∃ ticket, .accepted ticket lane ∈ log ∧
      ticket.number = number := by
  simp only [acceptedIn, List.mem_filterMap]
  constructor
  · rintro ⟨event, member, found⟩
    cases event <;> simp at found
    obtain ⟨rfl, rfl⟩ := found
    exact ⟨_, member, rfl⟩
  · rintro ⟨ticket, member, rfl⟩
    exact ⟨_, member, by simp⟩

theorem mem_startedIn {log : List (Event J)} {lane number : Nat} :
    number ∈ startedIn log lane ↔ .started number lane ∈ log := by
  simp only [startedIn, List.mem_filterMap]
  constructor
  · rintro ⟨event, member, found⟩
    cases event <;> simp at found
    obtain ⟨rfl, rfl⟩ := found
    exact member
  · intro member
    exact ⟨_, member, by simp⟩

theorem mem_endedIn {log : List (Event J)} {lane number : Nat} :
    number ∈ endedIn log lane ↔ ∃ ending, .ended number lane ending ∈ log := by
  simp only [endedIn, List.mem_filterMap]
  constructor
  · rintro ⟨event, member, found⟩
    cases event <;> simp at found
    obtain ⟨rfl, rfl⟩ := found
    exact ⟨_, member⟩
  · rintro ⟨ending, member⟩
    exact ⟨_, member, by simp⟩

theorem mem_discardedIn {log : List (Event J)} {lane number : Nat} :
    number ∈ discardedIn log lane ↔ .discarded number lane ∈ log := by
  simp only [discardedIn, List.mem_filterMap]
  constructor
  · rintro ⟨event, member, found⟩
    cases event <;> simp at found
    obtain ⟨rfl, rfl⟩ := found
    exact member
  · intro member
    exact ⟨_, member, by simp⟩

theorem mem_started {log : List (Event J)} {number : Nat} :
    number ∈ started log ↔ ∃ lane, .started number lane ∈ log := by
  simp only [started, List.mem_filterMap]
  constructor
  · rintro ⟨event, member, found⟩
    cases event <;> simp at found
    subst found
    exact ⟨_, member⟩
  · rintro ⟨lane, member⟩
    exact ⟨_, member, rfl⟩

/-- What left a queue either started or was discarded. -/
theorem leftIn_perm (log : List (Event J)) (lane : Nat) :
    (leftIn log lane).Perm (startedIn log lane ++ discardedIn log lane) := by
  induction log using List.reverseRecOn with
  | nil => exact .refl _
  | append_singleton log event ih =>
    rw [leftIn_snoc, startedIn_snoc, discardedIn_snoc]
    have regroup (one two : List Nat) : (leftIn log lane ++ (one ++ two)).Perm
        (startedIn log lane ++ one ++ (discardedIn log lane ++ two)) := by
      refine (ih.append_right _).trans ?_
      simp only [List.append_assoc]
      refine List.Perm.append_left _ ?_
      rw [← List.append_assoc, ← List.append_assoc]
      exact List.perm_append_comm.append_right _
    cases event with
    | started number index =>
      simpa using regroup (Event.startedIn? lane (.started number index : Event J)).toList []
    | discarded number index =>
      simpa using regroup [] (Event.discardedIn? lane (.discarded number index : Event J)).toList
    | _ => simpa using regroup [] []

/-- Where a map finds nothing twice, it tells the items apart that it finds something in. -/
theorem eq_of_filterMap_nodup {α β : Type} {pick : α → Option β} {items : List α}
    (distinct : (items.filterMap pick).Nodup) {left right : α} {found : β}
    (first : left ∈ items) (second : right ∈ items) (picked : pick left = some found)
    (again : pick right = some found) : left = right := by
  induction items with
  | nil => cases first
  | cons item rest ih =>
    have elsewhere : ∀ other ∈ rest, pick other = some found → pick item ≠ some found := by
      intro other member chosen same
      rw [List.filterMap_cons_some same, List.nodup_cons] at distinct
      exact distinct.1 (List.mem_filterMap.mpr ⟨other, member, chosen⟩)
    have distinctRest : (rest.filterMap pick).Nodup :=
      distinct.sublist ((List.sublist_cons_self item rest).filterMap pick)
    rcases List.mem_cons.mp first with rfl | leftRest
    · rcases List.mem_cons.mp second with rfl | rightRest
      · rfl
      · exact absurd picked (elsewhere _ rightRest again)
    · rcases List.mem_cons.mp second with rfl | rightRest
      · exact absurd again (elsewhere _ leftRest picked)
      · exact ih distinctRest leftRest rightRest

theorem NumbersCalls.nodup (counted : NumbersCalls system) : (calls system.log).Nodup := by
  rw [counted]
  exact List.nodup_range

theorem NumbersCalls.nodup_acceptedIn (counted : NumbersCalls system) (lane : Nat) :
    (acceptedIn system.log lane).Nodup :=
  counted.nodup.sublist (acceptedIn_sublist _ _)

theorem NumbersCalls.accepted_unique (counted : NumbersCalls system) {left right : Ticket J}
    {i j : Nat} (first : .accepted left i ∈ system.log) (second : .accepted right j ∈ system.log)
    (same : left.number = right.number) : left = right ∧ i = j := by
  have event : Event.accepted left i = .accepted right j :=
    eq_of_filterMap_nodup counted.nodup first second rfl (by simp [same])
  cases event
  exact ⟨rfl, rfl⟩

theorem NumbersCalls.not_accepted (counted : NumbersCalls system) {ticket other : Ticket J}
    {refusal : Refusal} {lane : Nat} (refused : .refused ticket refusal ∈ system.log)
    (accepted : .accepted other lane ∈ system.log) : other.number ≠ ticket.number := by
  intro same
  have event : Event.refused ticket refusal = .accepted other lane :=
    eq_of_filterMap_nodup counted.nodup refused accepted rfl (by simp [same])
  cases event

section Fresh

variable (created : create name workers queueSize spread = .ok pool)
  (run : Run conduct (.start pool office) system)
include created run

theorem Run.nodup_left (lane : Nat) :
    (startedIn system.log lane ++ discardedIn system.log lane).Nodup := by
  have accepted := run.numbersCalls.nodup_acceptedIn lane
  rw [run.servesInOrder created lane] at accepted
  exact (leftIn_perm _ _).nodup_iff.mp accepted.of_append_left

theorem Run.accepted_of_left {lane number : Nat}
    (left : number ∈ leftIn system.log lane) :
    ∃ ticket, .accepted ticket lane ∈ system.log ∧ ticket.number = number := by
  rw [← mem_acceptedIn, run.servesInOrder created lane]
  exact List.mem_append_left _ left

/-- Jobs start in the order in which their lane accepted them. -/
theorem Run.startedIn_sublist (lane : Nat) :
    (startedIn system.log lane).Sublist (acceptedIn system.log lane) := by
  have left : (startedIn system.log lane).Sublist (leftIn system.log lane) := by
    apply filterMap_sublist
    intro event number found
    rw [found, Option.some_or]
  rw [run.servesInOrder created lane]
  exact left.trans (List.sublist_append_left _ _)

theorem Run.accepted_of_started {lane number : Nat} (started : .started number lane ∈ system.log) :
    ∃ ticket, .accepted ticket lane ∈ system.log ∧ ticket.number = number :=
  run.accepted_of_left created
    ((leftIn_perm _ _).mem_iff.mpr (List.mem_append_left _ (mem_startedIn.mpr started)))

/-- A job that stands in a queue has not been started anywhere. -/
theorem Run.not_started_of_queued {lane number : Nat}
    (queued : number ∈ queuedIn system.pool lane) : number ∉ started system.log := by
  intro again
  obtain ⟨other, begun⟩ := mem_started.mp again
  obtain ⟨ticket, accepted, rfl⟩ := run.accepted_of_started created begun
  have distinct := run.numbersCalls.nodup_acceptedIn lane
  have standing : ticket.number ∈ acceptedIn system.log lane := by
    rw [run.servesInOrder created lane]
    exact List.mem_append_right _ queued
  obtain ⟨same, acceptedHere, number⟩ := mem_acceptedIn.mp standing
  obtain ⟨rfl, rfl⟩ := run.numbersCalls.accepted_unique acceptedHere accepted number
  rw [run.servesInOrder created lane] at distinct
  have left : same.number ∈ leftIn system.log lane :=
    (leftIn_perm _ _).mem_iff.mpr (List.mem_append_left _ (mem_startedIn.mpr begun))
  exact List.disjoint_of_nodup_append distinct left queued

end Fresh

end Transcript.Pool
