import Transcript.Pool

namespace Transcript.Pool

variable {J : Type}

def queueAt (pool : Pool J) (index : Nat) : List (Entry J) :=
  (pool.lanes[index]?.map Lane.queue).getD []

def workerAt (pool : Pool J) (index : Nat) : Worker J :=
  (pool.lanes[index]?.map Lane.worker).getD .idle

theorem queueAt_of_get {pool : Pool J} {index : Nat} {lane : Lane J}
    (found : pool.lanes[index]? = some lane) : pool.queueAt index = lane.queue := by
  simp [queueAt, found]

theorem workerAt_of_get {pool : Pool J} {index : Nat} {lane : Lane J}
    (found : pool.lanes[index]? = some lane) : pool.workerAt index = lane.worker := by
  simp [workerAt, found]

theorem get_of_inside {pool : Pool J} {index : Nat} (inside : index < pool.lanes.length) :
    pool.lanes[index]? = some ⟨pool.queueAt index, pool.workerAt index⟩ := by
  simp [queueAt, workerAt, inside]

theorem inside_of_get {pool : Pool J} {index : Nat} {lane : Lane J}
    (found : pool.lanes[index]? = some lane) : index < pool.lanes.length :=
  (List.getElem?_eq_some_iff.mp found).1

theorem queueAt_outside {pool : Pool J} {index : Nat} (outside : pool.lanes.length ≤ index) :
    pool.queueAt index = [] := by
  simp [queueAt, List.getElem?_eq_none outside]

@[simp] theorem setLane_name (pool : Pool J) (index : Nat) (lane : Lane J) :
    (pool.setLane index lane).name = pool.name := rfl

@[simp] theorem setLane_capacity (pool : Pool J) (index : Nat) (lane : Lane J) :
    (pool.setLane index lane).capacity = pool.capacity := rfl

@[simp] theorem setLane_closed (pool : Pool J) (index : Nat) (lane : Lane J) :
    (pool.setLane index lane).closed = pool.closed := rfl

@[simp] theorem setLane_spread (pool : Pool J) (index : Nat) (lane : Lane J) :
    (pool.setLane index lane).spread = pool.spread := rfl

@[simp] theorem setLane_size (pool : Pool J) (index : Nat) (lane : Lane J) :
    (pool.setLane index lane).lanes.length = pool.lanes.length := by
  simp [setLane]

theorem queueAt_setLane {pool : Pool J} {index : Nat} (inside : index < pool.lanes.length)
    (lane : Lane J) (other : Nat) :
    (pool.setLane index lane).queueAt other =
      if other = index then lane.queue else pool.queueAt other := by
  by_cases same : other = index
  · subst same
    simp [queueAt, setLane, inside]
  · simp [queueAt, setLane, same, List.getElem?_set_ne (Ne.symm same)]

theorem workerAt_setLane {pool : Pool J} {index : Nat} (inside : index < pool.lanes.length)
    (lane : Lane J) (other : Nat) :
    (pool.setLane index lane).workerAt other =
      if other = index then lane.worker else pool.workerAt other := by
  by_cases same : other = index
  · subst same
    simp [workerAt, setLane, inside]
  · simp [workerAt, setLane, same, List.getElem?_set_ne (Ne.symm same)]

theorem queueAt_setLane_suffix {pool : Pool J} {index : Nat} {lane : Lane J}
    (inside : index < pool.lanes.length) (shorter : lane.queue <:+ pool.queueAt index)
    (other : Nat) : (pool.setLane index lane).queueAt other <:+ pool.queueAt other := by
  rw [queueAt_setLane inside]
  split
  · rename_i same
    exact same ▸ shorter
  · exact List.suffix_refl _

theorem workerAt_setLane_same {pool : Pool J} {index : Nat} {lane : Lane J}
    (inside : index < pool.lanes.length) (kept : lane.worker = pool.workerAt index)
    (other : Nat) : (pool.setLane index lane).workerAt other = pool.workerAt other := by
  rw [workerAt_setLane inside]
  split
  · rename_i same
    rw [kept, same]
  · rfl

@[simp] theorem close_name (pool : Pool J) : pool.close.name = pool.name := rfl

@[simp] theorem close_capacity (pool : Pool J) : pool.close.capacity = pool.capacity := rfl

@[simp] theorem close_closed (pool : Pool J) : pool.close.closed = true := rfl

@[simp] theorem close_lanes (pool : Pool J) : pool.close.lanes = pool.lanes := rfl

@[simp] theorem close_spread (pool : Pool J) : pool.close.spread = pool.spread := rfl

@[simp] theorem queueAt_close (pool : Pool J) (index : Nat) :
    pool.close.queueAt index = pool.queueAt index := rfl

@[simp] theorem workerAt_close (pool : Pool J) (index : Nat) :
    pool.close.workerAt index = pool.workerAt index := rfl

/-- A pool comes about exactly when it has a worker and room for a job. -/
theorem create_eq_ok_iff {name : String} {workers queueSize : Int} {spread : Value → Int}
    {pool : Pool J} :
    create name workers queueSize spread = .ok pool ↔
      1 ≤ workers ∧ 1 ≤ queueSize ∧
        pool =
          { name, capacity := queueSize.toNat, lanes := .replicate workers.toNat {}, spread } := by
  unfold create
  by_cases few : workers < 1
  · have none : ¬ 1 ≤ workers := by omega
    simp [few, none]
  · by_cases small : queueSize < 1
    · have none : ¬ 1 ≤ queueSize := by omega
      simp [few, small, none]
    · simp only [few, small, ↓reduceIte, Except.ok.injEq]
      constructor
      · intro same
        exact ⟨by omega, by omega, same.symm⟩
      · intro fresh
        exact fresh.2.2.symm

theorem queueAt_create {name : String} {workers queueSize : Int} {spread : Value → Int}
    {pool : Pool J} (created : create name workers queueSize spread = .ok pool) (index : Nat) :
    pool.queueAt index = [] := by
  obtain ⟨_, _, rfl⟩ := create_eq_ok_iff.mp created
  by_cases inside : index < workers.toNat <;> simp [queueAt, inside]

theorem workerAt_create {name : String} {workers queueSize : Int} {spread : Value → Int}
    {pool : Pool J} (created : create name workers queueSize spread = .ok pool) (index : Nat) :
    pool.workerAt index = .idle := by
  obtain ⟨_, _, rfl⟩ := create_eq_ok_iff.mp created
  by_cases inside : index < workers.toNat <;> simp [workerAt, inside]

theorem lane_eq_of_spread {spread : Value → Int} {left right : Value} {lanes i j : Nat}
    (same : spread left = spread right) (first : left.lane spread lanes = .ok i)
    (second : right.lane spread lanes = .ok j) : i = j := by
  unfold Value.lane at first second
  split at first
  · cases first
  · split at second
    · cases second
    · rw [same] at first
      exact (Except.ok.inj first).symm.trans (Except.ok.inj second)

theorem lane_lt {spread : Value → Int} {key : Value} {lanes lane : Nat}
    (routed : key.lane spread lanes = .ok lane) (some : 0 < lanes) : lane < lanes := by
  unfold Value.lane at routed
  split at routed
  · cases routed
  · cases routed
    have upper : (spread key).emod lanes < lanes := Int.emod_lt_of_pos _ (by omega)
    have lower : 0 ≤ (spread key).emod lanes := Int.emod_nonneg _ (by omega)
    omega

/-- A job is accepted at the end of the queue of its key, and only by an open pool with
room in that queue. -/
theorem submit_eq_accepted {pool next : Pool J} {key : Value} {job : J}
    (accepted : pool.submit key job = (.accepted, next)) :
    ∃ index, pool.closed = false ∧ key.lane pool.spread pool.lanes.length = .ok index ∧
      index < pool.lanes.length ∧ (pool.queueAt index).length < pool.capacity ∧
      next = pool.setLane index ⟨pool.queueAt index ++ [.job job], pool.workerAt index⟩ := by
  unfold submit at accepted
  by_cases closed : pool.closed
  · simp [closed] at accepted
  · simp only [closed, Bool.false_eq_true, ↓reduceIte] at accepted
    split at accepted
    · cases accepted
    · rename_i index lane
      split at accepted
      · cases accepted
      · rename_i found
        split at accepted
        · rename_i room
          cases accepted
          refine ⟨index, by simpa using closed, lane, inside_of_get found, ?_, ?_⟩
          · simpa [queueAt_of_get found] using room
          · rw [queueAt_of_get found, workerAt_of_get found]
        · cases accepted

/-- A job that is not accepted leaves the pool as it was. -/
theorem submit_eq_refused {pool next : Pool J} {key : Value} {job : J} {submission : Submission}
    (refused : pool.submit key job = (submission, next)) (other : submission ≠ .accepted) :
    next = pool := by
  unfold submit at refused
  split at refused
  · cases refused
    rfl
  · split at refused
    · cases refused
      rfl
    · split at refused
      · cases refused
        rfl
      · split at refused
        · cases refused
          exact absurd rfl other
        · cases refused
          rfl

theorem submit_name {pool next : Pool J} {key : Value} {job : J} {submission : Submission}
    (submitted : pool.submit key job = (submission, next)) : next.name = pool.name := by
  by_cases accepted : submission = .accepted
  · rw [accepted] at submitted
    obtain ⟨index, _, _, _, _, rfl⟩ := submit_eq_accepted submitted
    rfl
  · rw [submit_eq_refused submitted accepted]

/-- An idle worker takes the first entry of its queue. -/
theorem take_eq_some {pool next : Pool J} {index : Nat} {entry : Entry J}
    (taken : pool.take index = some (entry, next)) :
    ∃ rest, index < pool.lanes.length ∧ pool.workerAt index = .idle ∧
      pool.queueAt index = entry :: rest ∧ next = pool.setLane index ⟨rest, entry.worker⟩ := by
  unfold take at taken
  split at taken
  · rename_i rest found
    cases taken
    exact ⟨rest, inside_of_get found, workerAt_of_get found, queueAt_of_get found, rfl⟩
  · cases taken

theorem running?_eq_some {pool : Pool J} {index : Nat} {job : J} :
    pool.running? index = some job ↔
      index < pool.lanes.length ∧ pool.workerAt index = .running job := by
  constructor
  · intro running
    unfold running? at running
    split at running
    · rename_i found
      cases running
      exact ⟨inside_of_get found, workerAt_of_get found⟩
    · cases running
  · rintro ⟨inside, running⟩
    simp [running?, get_of_inside inside, running]

theorem take_of_idle {pool : Pool J} {index : Nat} {entry : Entry J} {rest : List (Entry J)}
    (inside : index < pool.lanes.length) (idle : pool.workerAt index = .idle)
    (queue : pool.queueAt index = entry :: rest) :
    pool.take index = some (entry, pool.setLane index ⟨rest, entry.worker⟩) := by
  simp [take, get_of_inside inside, idle, queue]

theorem setWorker_eq {pool : Pool J} {index : Nat} (inside : index < pool.lanes.length)
    (worker : Worker J) :
    pool.setWorker index worker = pool.setLane index ⟨pool.queueAt index, worker⟩ := by
  simp [setWorker, get_of_inside inside]

theorem running?_setLane {pool : Pool J} {index : Nat} (inside : index < pool.lanes.length)
    (queue : List (Entry J)) (job : J) :
    (pool.setLane index ⟨queue, .running job⟩).running? index = some job := by
  rw [running?_eq_some, workerAt_setLane inside, if_pos rfl]
  exact ⟨by simpa using inside, rfl⟩

theorem setWorker_setLane {pool : Pool J} {index : Nat}
    (inside : index < pool.lanes.length) (queue : List (Entry J)) (before now : Worker J) :
    (pool.setLane index ⟨queue, before⟩).setWorker index now = pool.setLane index ⟨queue, now⟩ := by
  rw [setWorker_eq (by simpa using inside), queueAt_setLane inside, if_pos rfl]
  simp [setLane]

theorem setWorker_setWorker {pool : Pool J} {index : Nat}
    (inside : index < pool.lanes.length) (before now : Worker J) :
    (pool.setWorker index before).setWorker index now = pool.setWorker index now := by
  rw [setWorker_eq inside, setWorker_setLane inside, setWorker_eq inside]

/-- Whatever stands first in a queue is removed, and its worker goes on as before. -/
theorem discard_eq_some {pool next : Pool J} {index : Nat}
    (removed : pool.discard index = some next) :
    ∃ entry rest, index < pool.lanes.length ∧ pool.queueAt index = entry :: rest ∧
      next = pool.setLane index ⟨rest, pool.workerAt index⟩ := by
  unfold discard at removed
  split at removed
  · rename_i entry rest worker found
    cases removed
    refine ⟨entry, rest, inside_of_get found, queueAt_of_get found, ?_⟩
    rw [workerAt_of_get found]
  · cases removed

theorem discard_eq_none {pool : Pool J} {index : Nat} :
    pool.discard index = none ↔ pool.queueAt index = [] := by
  rcases Nat.lt_or_ge index pool.lanes.length with inside | outside
  · cases queue : pool.queueAt index <;> simp [discard, get_of_inside inside, queue]
  · simp [discard, queueAt_outside outside, List.getElem?_eq_none outside]

/-- The stop marker goes to the end of a queue that has room. -/
theorem placeStop_eq_some {pool next : Pool J} {index : Nat}
    (placed : pool.placeStop index = some next) :
    index < pool.lanes.length ∧ (pool.queueAt index).length < pool.capacity ∧
      next = pool.setLane index ⟨pool.queueAt index ++ [.stop], pool.workerAt index⟩ := by
  unfold placeStop at placed
  split at placed
  · rename_i found
    split at placed
    · rename_i room
      cases placed
      refine ⟨inside_of_get found, ?_, ?_⟩
      · simpa [queueAt_of_get found] using room
      · rw [queueAt_of_get found, workerAt_of_get found]
    · cases placed
  · cases placed

end Transcript.Pool
