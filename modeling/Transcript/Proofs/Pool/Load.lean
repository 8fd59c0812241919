import Transcript.Proofs.Pool.Accounting
import Transcript.Proofs.Pool.Endings

namespace Transcript.Pool

variable {J σ : Type} {conduct : Conduct J σ} {system next : System J σ}

def laneLoad (lane : Lane (Ticket J)) : Nat :=
  (numbers lane.queue).length + (workerNumber? lane.worker).toList.length

def load (pool : Pool (Ticket J)) : Nat := (pool.lanes.map laneLoad).sum

theorem sum_set {α : Type} {items : List α} {index : Nat} {present : α}
    (found : items[index]? = some present) (item : α) (size : α → Nat) :
    ((items.set index item).map size).sum + size present = (items.map size).sum + size item := by
  induction items generalizing index with
  | nil => cases found
  | cons first rest ih =>
    cases index with
    | zero =>
      cases found
      simp only [List.set_cons_zero, List.map_cons, List.sum_cons]
      omega
    | succ index =>
      have others := ih found
      simp only [List.set_cons_succ, List.map_cons, List.sum_cons]
      omega

theorem load_setLane {pool : Pool (Ticket J)} {index : Nat} (inside : index < pool.lanes.length)
    (lane : Lane (Ticket J)) :
    (pool.setLane index lane).load + laneLoad ⟨pool.queueAt index, pool.workerAt index⟩ =
      pool.load + laneLoad lane :=
  sum_set (get_of_inside inside) lane laneLoad

theorem load_create {name : String} {workers queueSize : Int} {spread : Value → Int}
    {pool : Pool (Ticket J)} (created : create name workers queueSize spread = .ok pool) :
    pool.load = 0 := by
  obtain ⟨_, _, rfl⟩ := create_eq_ok_iff.mp created
  simp [load, laneLoad, numbers, workerNumber?]

/-- Every call is accounted for. -/
def AccountsForCalls (system : System J σ) : Prop :=
  system.issued = (refusedAs system.log .full).length + (refusedAs system.log .closed).length +
    (ended system.log).length + (discarded system.log).length + system.pool.load

/-- How many calls were turned away or their jobs ended or were discarded. -/
def settled (log : List (Event J)) : Nat :=
  (refusedAs log .full).length + (refusedAs log .closed).length + (ended log).length +
    (discarded log).length

/-- How many calls an event settles. -/
def Event.settles : Event J → Nat
  | .refused .. | .ended .. | .discarded .. => 1
  | .accepted .. | .started .. | .marked .. | .markDiscarded .. => 0

@[simp] theorem settled_snoc (log : List (Event J)) (event : Event J) :
    settled (log ++ [event]) = settled log + event.settles := by
  unfold settled
  cases event with
  | refused ticket refusal =>
    cases refusal <;> simp [refusedAs, ended, discarded, Event.settles] <;> omega
  | ended | discarded => simp [refusedAs, ended, discarded, Event.settles]; omega
  | accepted | started | marked | markDiscarded =>
    simp [refusedAs, ended, discarded, Event.settles]

@[simp] theorem laneLoad_mk (queue : List (Entry (Ticket J))) (worker : Worker (Ticket J)) :
    laneLoad ⟨queue, worker⟩ = (numbers queue).length + (workerNumber? worker).toList.length := rfl

theorem Step.accountsForCalls (step : Step conduct system next)
    (accounts : AccountsForCalls system) : AccountsForCalls next := by
  change system.issued = settled system.log + system.pool.load at accounts
  change next.issued = settled next.log + next.pool.load
  cases step.effect with
  | nothing pool log issued => rw [pool, log, issued, accounts]
  | accepted ticket lane _ _ _ inside _ pool log issued =>
    have moved := load_setLane inside
      ⟨system.pool.queueAt lane ++ [.job ticket], system.pool.workerAt lane⟩
    simp [← pool, numbers] at moved
    rw [issued, log, settled_snoc, accounts, Event.settles]
    omega
  | refused ticket refusal _ pool log issued =>
    rw [pool, issued, log, settled_snoc, accounts, Event.settles]
    omega
  | started ticket lane rest inside idle queue pool log issued =>
    have moved := load_setLane inside ⟨rest, .running ticket⟩
    simp [← pool, idle, queue, numbers, workerNumber?] at moved
    rw [issued, log, settled_snoc, accounts, Event.settles]
    omega
  | stopped lane rest inside idle queue pool log issued =>
    have moved := load_setLane inside ⟨rest, .stopped⟩
    simp [← pool, idle, queue, numbers, workerNumber?] at moved
    rw [issued, log, accounts, moved]
  | moved ticket job lane inside running _ pool log issued =>
    have moved := load_setLane inside ⟨system.pool.queueAt lane, .running { ticket with job }⟩
    simp [← pool, running, workerNumber?] at moved
    rw [issued, log, accounts, moved]
  | ended ticket ending lane inside running pool log issued =>
    have moved := load_setLane inside ⟨system.pool.queueAt lane, ending.worker⟩
    rw [← pool, running, laneLoad_mk, laneLoad_mk, workerNumber?_ending] at moved
    simp [workerNumber?] at moved
    rw [issued, log, settled_snoc, accounts, Event.settles]
    omega
  | closed _ _ pool log issued =>
    rw [pool, log, issued, accounts]
    rfl
  | removed entry lane rest inside queue pool log issued =>
    have moved := load_setLane inside ⟨rest, system.pool.workerAt lane⟩
    simp only [← pool, queue, laneLoad_mk] at moved
    rw [issued, log, settled_snoc, accounts]
    cases entry with
    | job =>
      simp only [numbers, List.length_cons, Event.removal, Event.settles] at moved ⊢
      omega
    | stop =>
      simp only [numbers, Event.removal, Event.settles] at moved ⊢
      omega
  | marked lane inside _ pool log issued =>
    have moved := load_setLane inside
      ⟨system.pool.queueAt lane ++ [.stop], system.pool.workerAt lane⟩
    simp [← pool, numbers] at moved
    rw [issued, log, settled_snoc, accounts, Event.settles, moved, Nat.add_zero]
  | passed pool log issued => rw [pool, log, issued, accounts]

section Fresh

variable {name : String} {workers queueSize : Int} {spread : Value → Int}
variable {pool : Pool (Ticket J)} {office : Office σ}
variable (created : create name workers queueSize spread = .ok pool)
  (run : Run conduct (.start pool office) system)
include created run

theorem Run.accountsForCalls : AccountsForCalls system := by
  refine run.keeps ?_ fun accounts step => step.accountsForCalls accounts
  simp [AccountsForCalls, System.start, refusedAs, ended, discarded, load_create created]

/-- When no call is half-way, the jobs that were turned away have been counted. -/
theorem Run.dropped_refused (discreet : conduct.Discreet) (quiet : system.isQuiet)
    (refusal : Refusal) : system.office.desk.dropped refusal.reason =
      office.desk.dropped refusal.reason + (refusedAs system.log refusal).length := by
  have balance := (run.balanced created discreet).refused refusal
  simpa [System.unreported, quiet.1] using balance

theorem Run.dropped_abandoned (discreet : conduct.Discreet) (quiet : system.isQuiet) :
    system.office.desk.dropped abandonedReason =
      office.desk.dropped abandonedReason + (discarded system.log).length := by
  have balance := (run.balanced created discreet).abandoned
  rw [(run.removesInOrder created).counted] at balance
  cases active : system.closing with
  | none => simpa [System.untold, active] using balance
  | some closing =>
    simpa [System.untold, active, Closing.untold, quiet.2 closing active] using balance

end Fresh

end Transcript.Pool
