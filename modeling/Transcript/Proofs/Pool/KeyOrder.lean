import Transcript.Proofs.Pool.Numbers
import Transcript.Proofs.Pool.Replay

/-! Jobs under equal keys. They share a lane, so no two of them run at the same time, and the
one that was accepted earlier has ended before the other starts. -/

namespace Transcript.Pool

variable {J σ : Type} {conduct : Conduct J σ} {system next : System J σ}
variable {name : String} {workers queueSize : Int} {spread : Value → Int}
variable {pool : Pool (Ticket J)} {office : Office σ}

/-- A job starts only from the front of its queue, on a worker that runs nothing. -/
theorem Effect.of_started (effect : Effect conduct system next) {number lane : Nat}
    (log : next.log = system.log ++ [.started number lane]) :
    workerNumber? (system.pool.workerAt lane) = none ∧
      ∃ behind, queuedIn system.pool lane = number :: behind := by
  rcases effect.log with same | ⟨event, grown, cause⟩
  · rw [same] at log
    simp at log
  · cases List.singleton_inj.mp (List.append_cancel_left (grown.symm.trans log))
    obtain ⟨idle, ticket, rest, queue, rfl⟩ := cause
    exact ⟨by simp [idle, workerNumber?], numbers rest, by simp [queuedIn, queue, numbers]⟩

/-- No job starts twice, on whatever workers. -/
theorem Run.nodup_started (created : create name workers queueSize spread = .ok pool)
    (run : Run conduct (.start pool office) system) : (started system.log).Nodup := by
  induction run with
  | here => simp [System.start, started]
  | @turn here there run step ih =>
    rcases step.log with same | ⟨event, grown⟩
    · rwa [same]
    · cases event with
      | started number lane =>
        obtain ⟨_, behind, queue⟩ := step.effect.of_started grown
        have fresh := run.not_started_of_queued created (queue ▸ List.mem_cons_self)
        have added : started there.log = started here.log ++ [number] := by
          simp [started, grown]
        rw [added, ← List.concat_eq_append]
        exact ih.concat fresh
      | _ => simpa [grown, started] using ih

theorem mem_of_pair_sublist {α : Type} {first second : α} {front behind : List α}
    (distinct : (front ++ second :: behind).Nodup)
    (ordered : [first, second].Sublist (front ++ second :: behind)) : first ∈ front := by
  induction front with
  | nil =>
    have absent : second ∉ behind := (List.nodup_cons.mp distinct).1
    cases ordered with
    | cons _ rest => exact absurd (rest.subset (by simp)) absent
    | cons_cons _ rest => exact absurd (List.singleton_sublist.mp rest) absent
  | cons item front ih =>
    cases ordered with
    | cons _ rest => exact List.mem_cons_of_mem _ (ih (List.nodup_cons.mp distinct).2 rest)
    | cons_cons _ rest => exact List.mem_cons_self

/-- When a job starts, every job that its lane accepted earlier has ended or was discarded. -/
theorem Run.ended_or_discarded_before (created : create name workers queueSize spread = .ok pool)
    (run : Run conduct (.start pool office) system) {lane earlier later : Nat}
    {before after : List (Event J)}
    (accepted : [earlier, later].Sublist (acceptedIn system.log lane))
    (split : system.log = before ++ .started later lane :: after) :
    earlier ∈ endedIn before lane ∨ earlier ∈ discardedIn before lane := by
  obtain ⟨here, there, reached, step, rest, hereLog, thereLog⟩ := run.turn_of_event rfl split
  obtain ⟨idle, behind, queue⟩ := step.effect.of_started (by rw [thereLog, hereLog])
  -- what the lane accepts later comes behind everything that it has accepted by then
  have known : ∃ more, acceptedIn system.log lane =
      leftIn before lane ++ later :: (behind ++ more) := by
    obtain ⟨more, grown⟩ := rest.log_prefix
    have order := reached.servesInOrder created lane
    rw [queue, hereLog] at order
    refine ⟨acceptedIn more lane, ?_⟩
    calc acceptedIn system.log lane
        = acceptedIn before lane ++ acceptedIn more lane := by
          simp [← grown, thereLog, acceptedIn, List.filterMap_cons]
      _ = leftIn before lane ++ later :: (behind ++ acceptedIn more lane) := by simp [order]
  obtain ⟨more, known⟩ := known
  have distinct := run.numbersCalls.nodup_acceptedIn lane
  rw [known] at distinct accepted
  have left : earlier ∈ leftIn before lane := mem_of_pair_sublist distinct accepted
  rcases List.mem_append.mp ((leftIn_perm _ _).mem_iff.mp left) with begun | discarded
  · have turns := reached.takesTurns created lane
    rw [hereLog, runningIn, idle] at turns
    rw [turns] at begun
    exact .inl (by simpa using begun)
  · exact .inr discarded

/-- Equal keys have the same number. -/
def RespectsKeys (spread : Value → Int) : Prop :=
  ∀ left right : Value, left.sameKey right = true → spread left = spread right

theorem RoutesByKey.same_lane (routes : RoutesByKey system)
    (respects : RespectsKeys system.pool.spread) {left right : Ticket J} {i j : Nat}
    (first : .accepted left i ∈ system.log) (second : .accepted right j ∈ system.log)
    (same : left.key.sameKey right.key = true) : i = j :=
  lane_eq_of_spread (respects _ _ same) (routes left i first) (routes right j second)

section Fresh

variable (created : create name workers queueSize spread = .ok pool)
  (run : Run conduct (.start pool office) system)
include created run

theorem Run.spread_eq : system.pool.spread = spread := by
  obtain ⟨_, _, kept, _⟩ := run.frame
  obtain ⟨_, _, rfl⟩ := create_eq_ok_iff.mp created
  exact kept

theorem Run.started_where_accepted {ticket : Ticket J} {lane : Nat}
    (accepted : .accepted ticket lane ∈ system.log)
    (begun : ticket.number ∈ started system.log) : .started ticket.number lane ∈ system.log := by
  obtain ⟨other, event⟩ := mem_started.mp begun
  obtain ⟨same, acceptedThere, number⟩ := run.accepted_of_started created event
  obtain ⟨rfl, rfl⟩ := run.numbersCalls.accepted_unique acceptedThere accepted number
  exact event

/-- Two running jobs with equal keys are one job. -/
theorem Run.one_runs_per_key (respects : RespectsKeys spread) {i j : Nat} {left right : Ticket J}
    (first : system.pool.running? i = some left) (second : system.pool.running? j = some right)
    (same : left.key.sameKey right.key = true) : i = j := by
  have stems : StemsFrom (fun _ _ => True) system :=
    run.stemsFrom created (fun _ => trivial) fun _ _ => trivial
  obtain ⟨_, _, acceptedLeft⟩ := stems.2 i left (running?_eq_some.mp first).2
  obtain ⟨_, _, acceptedRight⟩ := stems.2 j right (running?_eq_some.mp second).2
  exact run.routesByKey.same_lane ((run.spread_eq created).symm ▸ respects) acceptedLeft
    acceptedRight same

/-- Of two jobs of one lane that both start, the earlier ends before the later starts. -/
theorem Run.ends_before_starts {earlier later : Ticket J} {lane : Nat}
    (ordered : [.accepted earlier lane, .accepted later lane].Sublist system.log)
    (first : earlier.number ∈ started system.log) (second : later.number ∈ started system.log) :
    ∃ ending,
      [.ended earlier.number lane ending, .started later.number lane].Sublist system.log := by
  have begun : .started earlier.number lane ∈ system.log :=
    run.started_where_accepted created (ordered.subset (by simp)) first
  have taken : .started later.number lane ∈ system.log :=
    run.started_where_accepted created (ordered.subset (by simp)) second
  obtain ⟨before, after, split⟩ := List.append_of_mem taken
  have numbered : [earlier.number, later.number].Sublist (acceptedIn system.log lane) := by
    simpa [acceptedIn] using ordered.filterMap (Event.acceptedIn? lane)
  rcases run.ended_or_discarded_before created numbered split with ended | discarded
  · obtain ⟨ending, event⟩ := mem_endedIn.mp ended
    refine ⟨ending, ?_⟩
    rw [split]
    exact (List.singleton_sublist.mpr event).append ((List.nil_sublist after).cons_cons _)
  · have event : .discarded earlier.number lane ∈ system.log := by
      rw [split]
      exact List.mem_append_left _ (mem_discardedIn.mp discarded)
    have apart := List.disjoint_of_nodup_append (run.nodup_left created lane)
    exact absurd (mem_discardedIn.mpr event) (apart (mem_startedIn.mpr begun))

end Fresh

/-- However callers, workers and shutdowns take turns: a job starts at most once and only if
it was accepted, jobs under equal keys never run at the same time, and of two of them the one
that was accepted earlier, if it starts at all, has ended when the later one starts. -/
theorem equal_keys_take_turns (created : create name workers queueSize spread = .ok pool)
    (respects : RespectsKeys spread) (run : Run conduct (.start pool office) system) :
    (started system.log).Nodup ∧
      (∀ number lane, .started number lane ∈ system.log →
        ∃ ticket, .accepted ticket lane ∈ system.log ∧ ticket.number = number) ∧
      (∀ ticket refusal, .refused ticket refusal ∈ system.log →
        ticket.number ∉ started system.log) ∧
      (∀ i j left right, system.pool.running? i = some left →
        system.pool.running? j = some right → left.key.sameKey right.key = true → i = j) ∧
      ∀ earlier later i j, [.accepted earlier i, .accepted later j].Sublist system.log →
        earlier.key.sameKey later.key = true → earlier.number ∈ started system.log →
        later.number ∈ started system.log →
        ∃ ending,
          [.ended earlier.number i ending, .started later.number j].Sublist system.log := by
  refine ⟨run.nodup_started created, fun _ _ => run.accepted_of_started created, ?_,
    fun _ _ _ _ => run.one_runs_per_key created respects, ?_⟩
  · intro ticket refusal refused begun
    obtain ⟨lane, event⟩ := mem_started.mp begun
    obtain ⟨other, accepted, same⟩ := run.accepted_of_started created event
    exact run.numbersCalls.not_accepted refused accepted same
  · intro earlier later i j ordered same first second
    have sameLane : i = j :=
      run.routesByKey.same_lane ((run.spread_eq created).symm ▸ respects)
        (ordered.subset (by simp)) (ordered.subset (by simp)) same
    subst sameLane
    exact run.ends_before_starts created ordered first second

def textLength : Value → Int
  | .str text => text.length
  | _ => 0

theorem textLength_respectsKeys : RespectsKeys textLength := by
  intro left right same
  cases left <;> cases right <;> simp_all [Value.sameKey, Value.integer?, textLength]

def twoLanes : Pool (Ticket Unit) :=
  { name := "writer", capacity := 2, lanes := [{}, {}], spread := textLength }

/-- A running job hands in a job under its own key, and that waits until it has ended. -/
def nestedTurns : List (Turn Unit Unit) :=
  [.submit .outside (.str "a") (), .submit .outside (.str "bb") (), .take 1,
    .submit (.worker 1) (.str "a") (), .done 1, .take 1]

theorem equal_keys_take_turns_nested :
    ∃ system : System Unit Unit,
      create "writer" 2 2 textLength = .ok twoLanes ∧ RespectsKeys textLength ∧
        (System.start twoLanes { store := () }).replay nestedTurns = some system ∧
        ∃ ending, [.ended 0 1 ending, .started 2 1].Sublist system.log := by
  have created : create "writer" 2 2 textLength = .ok twoLanes := by rfl
  have logged : ((System.start twoLanes { store := () }).replay nestedTurns).map System.log =
      some [.accepted ⟨0, .str "a", ()⟩ 1, .accepted ⟨1, .str "bb", ()⟩ 0, .started 0 1,
        .accepted ⟨2, .str "a", ()⟩ 1, .ended 0 1 .returned, .started 2 1] := by rfl
  obtain ⟨system, replayed, log⟩ := Option.map_eq_some_iff.mp logged
  have run : Run (.plain Unit Unit) (.start twoLanes { store := () }) system :=
    .of_replay (by simp [nestedTurns, Turn.Allowed, Turn.done, Conduct.plain]) replayed
  obtain ⟨_, _, _, _, turns⟩ := equal_keys_take_turns created textLength_respectsKeys run
  refine ⟨system, created, textLength_respectsKeys, replayed, ?_⟩
  rw [log] at turns ⊢
  exact turns ⟨0, .str "a", ()⟩ ⟨2, .str "a", ()⟩ 1 1
    (.cons_cons _ (.cons _ (.cons _ (.cons_cons _ (List.nil_sublist _)))))
    (by decide) (by decide) (by decide)

end Transcript.Pool
