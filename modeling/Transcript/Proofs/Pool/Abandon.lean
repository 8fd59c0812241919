import Transcript.Proofs.Pool.KeyOrder
import Transcript.Proofs.Pool.Shutdown

/-! Abandoning a pool takes jobs out of the queues while the workers still take jobs out of
them. A worker that ends its job at that time may take a job from behind one that has just
been discarded; nothing else makes jobs run that are no initial part of the accepted ones. -/

namespace Transcript.Pool

variable {J σ : Type} {conduct : Conduct J σ} {system next : System J σ}
variable {name : String} {workers queueSize : Int} {spread : Value → Int}
variable {pool : Pool (Ticket J)} {office : Office σ}

/-- Among the chosen jobs of a lane none starts after one has been discarded. -/
def NoneOvertaken (log : List (Event J)) (lane : Nat) (chosen : Nat → Bool) : Prop :=
  ∀ before number after, log = before ++ .started number lane :: after →
    chosen number = true → ∀ other ∈ discardedIn before lane, chosen other = false

theorem NoneOvertaken.earlier {log : List (Event J)} {event : Event J} {lane : Nat}
    {chosen : Nat → Bool} (ordered : NoneOvertaken (log ++ [event]) lane chosen) :
    NoneOvertaken log lane chosen := by
  intro before number after split
  exact ordered before number (after ++ [event]) (by simp [split])

/-- Where none is overtaken, the jobs that leave a queue start first and are discarded then. -/
theorem NoneOvertaken.leftIn_eq {log : List (Event J)} {lane : Nat} {chosen : Nat → Bool}
    (ordered : NoneOvertaken log lane chosen) :
    (leftIn log lane).filter chosen =
      (startedIn log lane).filter chosen ++ (discardedIn log lane).filter chosen := by
  induction log using List.reverseRecOn with
  | nil => rfl
  | append_singleton log event ih =>
    have before := ih ordered.earlier
    rw [leftIn_snoc, startedIn_snoc, discardedIn_snoc]
    simp only [List.filter_append, before]
    cases event with
    | started number index =>
      by_cases same : index = lane
      · subst same
        by_cases taken : chosen number
        · have none : (discardedIn log index).filter chosen = [] := by
            rw [List.filter_eq_nil_iff]
            intro other gone
            simp [ordered log number [] rfl taken other gone]
          simp [none]
        · simp [taken]
      · simp [same]
    | _ => simp

theorem front_subset_of_prefix {α : Type} {items front behind : List α} {item : α}
    (distinct : (front ++ item :: behind).Nodup) (initial : items <+: front ++ item :: behind)
    (member : item ∈ items) : front ⊆ items := by
  obtain ⟨rest, same⟩ := initial
  rcases List.append_eq_append_iff.mp same with ⟨more, longer, _⟩ | ⟨more, shorter, _⟩
  · have absent : item ∉ front := fun early =>
      List.disjoint_of_nodup_append distinct early List.mem_cons_self
    exact absurd (longer ▸ List.mem_append_left more member) absent
  · exact shorter ▸ List.subset_append_left front more

section Fresh

variable (created : create name workers queueSize spread = .ok pool)
  (run : Run conduct (.start pool office) system)
include created run

/-- Of the chosen jobs of a lane those that start are the first ones that it accepted, exactly
when none of them starts after one of them has been discarded. -/
theorem Run.started_prefix_iff (lane : Nat) (chosen : Nat → Bool) :
    (startedIn system.log lane).filter chosen <+: (acceptedIn system.log lane).filter chosen ↔
      NoneOvertaken system.log lane chosen := by
  have order := run.servesInOrder created lane
  constructor
  · intro initial before number after split taken other gone
    by_contra also
    have numbered : (acceptedIn system.log lane).filter chosen =
        (leftIn before lane).filter chosen ++ number ::
          (leftIn after lane ++ queuedIn system.pool lane).filter chosen := by
      rw [order, split]
      simp [leftIn, taken]
    have distinct := (run.numbersCalls.nodup_acceptedIn lane).filter chosen
    rw [numbered] at distinct initial
    have begun : number ∈ (startedIn system.log lane).filter chosen := by
      rw [List.mem_filter, mem_startedIn, split]
      exact ⟨by simp, taken⟩
    have left : other ∈ (leftIn before lane).filter chosen := by
      rw [List.mem_filter, (leftIn_perm before lane).mem_iff]
      exact ⟨List.mem_append_right _ gone, by simpa using also⟩
    have both := front_subset_of_prefix distinct initial begun left
    have discarded : other ∈ discardedIn system.log lane := by
      rw [mem_discardedIn, split]
      exact List.mem_append_left _ (mem_discardedIn.mp gone)
    exact List.disjoint_of_nodup_append (run.nodup_left created lane)
      (List.mem_filter.mp both).1 discarded
  · intro ordered
    rw [order, List.filter_append, ordered.leftIn_eq, List.append_assoc]
    exact List.prefix_append _ _

/-- A job starts after one of its lane has been discarded only while the shutdown is still
emptying that very lane. -/
theorem Run.overtakes_while_emptying {lane number other : Nat} {before after : List (Event J)}
    (split : system.log = before ++ .started number lane :: after)
    (gone : other ∈ discardedIn before lane) :
    ∃ here there closing, Run conduct (.start pool office) here ∧ Step conduct here there ∧
      Run conduct there system ∧ here.log = before ∧ here.closing = some closing ∧
      closing.policy = .abandon ∧ closing.stage = .emptying lane := by
  obtain ⟨here, there, reached, step, rest, hereLog, thereLog⟩ := run.turn_of_event rfl split
  obtain ⟨_, behind, queue⟩ := step.effect.of_started (by rw [thereLog, hereLog])
  have removes := reached.removesInOrder created
  obtain ⟨closing, active, policy, reachedLane⟩ :=
    removes.reached other lane (hereLog ▸ mem_discardedIn.mp gone)
  have first : number ∈ queuedIn here.pool lane := queue ▸ List.mem_cons_self
  obtain ⟨ticket, waiting, _⟩ := mem_numbers.mp first
  have unfinished : ¬ closing.stage.hasEmptied lane := fun emptied =>
    removes.emptied closing lane ticket active policy emptied waiting
  refine ⟨here, there, closing, reached, step, rest, hereLog, active, policy, ?_⟩
  cases stage : closing.stage with
  | emptying index =>
    rw [stage] at reachedLane unfinished
    have same : index = lane := by
      have upper : lane ≤ index := reachedLane
      have lower : ¬ lane < index := unfinished
      omega
    rw [same]
  | _ => exact absurd (by rw [stage]; trivial) unfinished

end Fresh

def acceptedUnder (log : List (Event J)) (key : Value) : List Nat :=
  log.filterMap fun
    | .accepted ticket _ => if ticket.key.sameKey key then some ticket.number else none
    | _ => none

/-- The jobs accepted under a key that started, in the order in which they did. -/
def startedUnder (log : List (Event J)) (key : Value) : List Nat :=
  (started log).filter fun number => number ∈ acceptedUnder log key

theorem mem_acceptedUnder {log : List (Event J)} {key : Value} {number : Nat} :
    number ∈ acceptedUnder log key ↔ ∃ ticket lane, .accepted ticket lane ∈ log ∧
      ticket.key.sameKey key = true ∧ ticket.number = number := by
  simp only [acceptedUnder, List.mem_filterMap]
  constructor
  · rintro ⟨event, member, found⟩
    cases event <;> simp at found
    exact ⟨_, _, member, found⟩
  · rintro ⟨ticket, lane, member, same, rfl⟩
    exact ⟨_, member, by simp [same]⟩

section Fresh

variable (created : create name workers queueSize spread = .ok pool)
  (run : Run conduct (.start pool office) system)
include created run

theorem Run.lane_of_key (respects : RespectsKeys spread) (key : Value) :
    ∃ lane, ∀ ticket index, .accepted ticket index ∈ system.log →
      ticket.key.sameKey key = true → index = lane := by
  by_cases any : ∃ ticket lane, .accepted ticket lane ∈ system.log ∧ ticket.key.sameKey key = true
  · obtain ⟨first, lane, accepted, same⟩ := any
    refine ⟨lane, fun ticket index also under => ?_⟩
    have number : system.pool.spread ticket.key = system.pool.spread first.key := by
      rw [run.spread_eq created, respects _ _ under, respects _ _ same]
    exact lane_eq_of_spread number (run.routesByKey _ _ also) (run.routesByKey _ _ accepted)
  · exact ⟨0, fun ticket index accepted same => absurd ⟨ticket, index, accepted, same⟩ any⟩

omit created in
theorem Run.acceptedUnder_eq {key : Value} {lane : Nat} (alone : ∀ ticket index,
      .accepted ticket index ∈ system.log → ticket.key.sameKey key = true → index = lane) :
    acceptedUnder system.log key = (acceptedIn system.log lane).filter fun number =>
      number ∈ acceptedUnder system.log key := by
  rw [acceptedIn, List.filter_filterMap]
  apply List.filterMap_congr
  intro event member
  cases event with
  | accepted ticket index =>
    by_cases under : ticket.key.sameKey key
    · have listed : ticket.number ∈ acceptedUnder system.log key :=
        mem_acceptedUnder.mpr ⟨ticket, index, member, under, rfl⟩
      simp [under, listed, alone ticket index member under, Option.filter]
    · have absent : ticket.number ∉ acceptedUnder system.log key := by
        intro listed
        obtain ⟨other, _, also, same, number⟩ := mem_acceptedUnder.mp listed
        obtain ⟨rfl, _⟩ := run.numbersCalls.accepted_unique also member number
        exact under same
      by_cases here : index = lane <;> simp [under, absent, here, Option.filter]
  | _ => simp

theorem Run.started_in_lane_of_key {key : Value} {lane number index : Nat}
    (alone : ∀ ticket index, .accepted ticket index ∈ system.log →
      ticket.key.sameKey key = true → index = lane)
    (begun : .started number index ∈ system.log)
    (under : number ∈ acceptedUnder system.log key) : index = lane := by
  obtain ⟨ticket, other, accepted, same, rfl⟩ := mem_acceptedUnder.mp under
  obtain ⟨also, there, number⟩ := run.accepted_of_started created begun
  obtain ⟨rfl, rfl⟩ := run.numbersCalls.accepted_unique there accepted number
  exact alone _ _ accepted same

theorem Run.startedUnder_eq {key : Value} {lane : Nat} (alone : ∀ ticket index,
      .accepted ticket index ∈ system.log → ticket.key.sameKey key = true → index = lane) :
    startedUnder system.log key = (startedIn system.log lane).filter fun number =>
      number ∈ acceptedUnder system.log key := by
  rw [startedUnder, started, startedIn, List.filter_filterMap, List.filter_filterMap]
  apply List.filterMap_congr
  intro event member
  cases event with
  | started number index =>
    by_cases here : index = lane
    · simp [here]
    · have absent : number ∉ acceptedUnder system.log key := fun under =>
        here (run.started_in_lane_of_key created alone member under)
      simp [here, absent, Option.filter]
  | _ => simp

/-- Of the jobs under a key those that start are the first ones that were accepted, exactly
when none of them starts after one of them has been discarded. -/
theorem Run.startedUnder_prefix_iff (respects : RespectsKeys spread) (key : Value) :
    startedUnder system.log key <+: acceptedUnder system.log key ↔
      ∀ lane, NoneOvertaken system.log lane fun number =>
        number ∈ acceptedUnder system.log key := by
  obtain ⟨lane, alone⟩ := run.lane_of_key created respects key
  have inLane := run.started_prefix_iff created lane fun number =>
    number ∈ acceptedUnder system.log key
  rw [← run.startedUnder_eq created alone, ← run.acceptedUnder_eq alone] at inLane
  rw [inLane]
  constructor
  · intro ordered other before number after split under
    have begun : .started number other ∈ system.log := by simp [split]
    have here : other = lane :=
      run.started_in_lane_of_key created alone begun (of_decide_eq_true under)
    subst here
    exact ordered before number after split under
  · intro ordered
    exact ordered lane

end Fresh

/-- The jobs that ran are the first ones that were accepted, in a lane as under a key, exactly
when no job started behind one that had been discarded; and a job starts so only on a worker
that takes it from a queue that an abandoning shutdown is still emptying. -/
theorem ran_first_iff_none_overtaken (created : create name workers queueSize spread = .ok pool)
    (respects : RespectsKeys spread) (run : Run conduct (.start pool office) system) :
    (∀ lane, startedIn system.log lane <+: acceptedIn system.log lane ↔
        NoneOvertaken system.log lane fun _ => true) ∧
      (∀ key, startedUnder system.log key <+: acceptedUnder system.log key ↔
        ∀ lane, NoneOvertaken system.log lane fun number =>
          number ∈ acceptedUnder system.log key) ∧
      ∀ lane before number after other, system.log = before ++ .started number lane :: after →
        other ∈ discardedIn before lane →
        ∃ here there closing, Run conduct (.start pool office) here ∧ Step conduct here there ∧
          Run conduct there system ∧ here.log = before ∧ here.closing = some closing ∧
          closing.policy = .abandon ∧ closing.stage = .emptying lane := by
  refine ⟨fun lane => ?_, fun key => run.startedUnder_prefix_iff created respects key,
    fun lane before number after other => run.overtakes_while_emptying created⟩
  have inLane := run.started_prefix_iff created lane fun _ => true
  rwa [List.filter_true, List.filter_true] at inLane

def oneLane : Pool (Ticket Unit) :=
  { name := "writer", capacity := 3, lanes := [{}], spread := textLength }

/-- While a shutdown abandons the queue, the worker ends its job and takes the next one. -/
def overtakingTurns : List (Turn Unit Unit) :=
  [.submit .outside (.str "a") (), .submit .outside (.str "a") (),
    .submit .outside (.str "a") (), .take 0, .close .abandon, .proceed, .done 0, .take 0]

theorem overtakingTurns_log :
    ∃ system : System Unit Unit, create "writer" 1 3 textLength = .ok oneLane ∧
      Run (.plain Unit Unit) (.start oneLane { store := () }) system ∧
      system.log = [.accepted ⟨0, .str "a", ()⟩ 0, .accepted ⟨1, .str "a", ()⟩ 0,
        .accepted ⟨2, .str "a", ()⟩ 0, .started 0 0, .discarded 1 0, .ended 0 0 .returned,
        .started 2 0] := by
  have logged : ((System.start oneLane { store := () }).replay overtakingTurns).map System.log =
      some [.accepted ⟨0, .str "a", ()⟩ 0, .accepted ⟨1, .str "a", ()⟩ 0,
        .accepted ⟨2, .str "a", ()⟩ 0, .started 0 0, .discarded 1 0, .ended 0 0 .returned,
        .started 2 0] := by rfl
  obtain ⟨system, replayed, log⟩ := Option.map_eq_some_iff.mp logged
  refine ⟨system, by rfl, .of_replay ?_ replayed, log⟩
  simp [overtakingTurns, Turn.Allowed, Turn.done, Conduct.plain]

/-- Of three jobs under one key the first and the last run, and the second never does. -/
theorem abandon_leaves_gap :
    ∃ system : System Unit Unit, create "writer" 1 3 textLength = .ok oneLane ∧
      Run (.plain Unit Unit) (.start oneLane { store := () }) system ∧
      acceptedUnder system.log (.str "a") = [0, 1, 2] ∧
      startedUnder system.log (.str "a") = [0, 2] ∧ .discarded 1 0 ∈ system.log ∧
      ¬ startedUnder system.log (.str "a") <+: acceptedUnder system.log (.str "a") := by
  obtain ⟨system, created, run, log⟩ := overtakingTurns_log
  have accepted : acceptedUnder system.log (.str "a") = [0, 1, 2] := by
    rw [log]
    rfl
  have begun : startedUnder system.log (.str "a") = [0, 2] := by
    rw [startedUnder, accepted, log]
    rfl
  refine ⟨system, created, run, accepted, begun, by simp [log], ?_⟩
  rw [accepted, begun]
  decide

/-- The job that overtakes is taken while its queue is being emptied. -/
theorem ran_first_iff_none_overtaken_abandoned :
    ∃ (system here : System Unit Unit) (closing : Closing),
      create "writer" 1 3 textLength = .ok oneLane ∧ RespectsKeys textLength ∧
      Run (.plain Unit Unit) (.start oneLane { store := () }) system ∧
      (¬ ∀ lane, NoneOvertaken system.log lane fun number =>
        number ∈ acceptedUnder system.log (.str "a")) ∧
      Run (.plain Unit Unit) (.start oneLane { store := () }) here ∧
      here.closing = some closing ∧ closing.stage = .emptying 0 := by
  obtain ⟨system, created, run, log⟩ := overtakingTurns_log
  obtain ⟨_, underKey, taken⟩ :=
    ran_first_iff_none_overtaken created textLength_respectsKeys run
  have split : system.log = [.accepted ⟨0, .str "a", ()⟩ 0, .accepted ⟨1, .str "a", ()⟩ 0,
      .accepted ⟨2, .str "a", ()⟩ 0, .started 0 0, .discarded 1 0, .ended 0 0 .returned] ++
      .started 2 0 :: [] := log
  obtain ⟨here, _, closing, reached, _, _, _, active, _, stage⟩ :=
    taken 0 _ 2 [] 1 split (by decide)
  refine ⟨system, here, closing, created, textLength_respectsKeys, run, ?_, reached, active, stage⟩
  rw [← underKey, startedUnder, log]
  decide

end Transcript.Pool
