import Mathlib.Algebra.BigOperators.Group.List.Basic
import Mathlib.Algebra.Ring.Int.Defs
import Mathlib.Data.List.Induction
import Mathlib.Data.List.Nodup
import Transcript.Desk

namespace Transcript

namespace Counters

/-- Counting adds to the series that it names, in whatever order its labels are given. -/
theorem value_add (counters : Counters) (name other : String) (labels others : List (Value × Value))
    (amount : Int) :
    (counters.add name labels amount).value other others = counters.value other others +
      if (name, labelKey labels) = (other, labelKey others) then amount else 0 := by
  unfold add value
  generalize (name, labelKey labels) = key
  generalize (other, labelKey others) = wanted
  by_cases counted : counters.series.any fun entry => entry.1 == key
  · simp only [counted, ↓reduceIte, List.find?_map]
    have sameTest : (fun entry : (String × LabelKey) × Int => entry.1 == wanted) ∘
        (fun entry => if entry.1 == key then (key, entry.2 + amount) else entry) =
          fun entry => entry.1 == wanted := by
      funext entry
      by_cases here : entry.1 = key <;> simp [here]
    rw [sameTest]
    cases found : counters.series.find? fun entry => entry.1 == wanted with
    | none =>
      have absent : key ≠ wanted := by
        rintro rfl
        obtain ⟨entry, member, here⟩ := List.any_eq_true.mp counted
        exact List.find?_eq_none.mp found entry member here
      simp [absent]
    | some entry =>
      have here : entry.1 = wanted := by simpa using List.find?_some found
      by_cases same : key = wanted
      · simp [here, same]
      · simp [here, same, Ne.symm same]
  · simp only [counted, Bool.false_eq_true, ↓reduceIte, List.find?_append]
    by_cases same : key = wanted
    · subst same
      have absent : (counters.series.find? fun entry => entry.1 == key) = none := by
        rw [List.find?_eq_none]
        intro entry member here
        exact counted (List.any_eq_true.mpr ⟨entry, member, here⟩)
      simp [absent]
    · simp [same]

/-- No series is listed twice. -/
def IsDistinct (counters : Counters) : Prop := (counters.series.map Prod.fst).Nodup

/-- The series under a key after an amount was added to it. -/
def bump (key : String × LabelKey) (amount : Int) (entry : (String × LabelKey) × Int) :
    (String × LabelKey) × Int :=
  if entry.1 == key then (key, entry.2 + amount) else entry

theorem bump_fst (key : String × LabelKey) (amount : Int) (entry : (String × LabelKey) × Int) :
    (bump key amount entry).1 = entry.1 := by
  by_cases here : entry.1 = key <;> simp [bump, here]

theorem add_eq (counters : Counters) (name : String) (labels : List (Value × Value))
    (amount : Int) : counters.add name labels amount =
      if (name, labelKey labels) ∈ counters.series.map Prod.fst then
        ⟨counters.series.map (bump (name, labelKey labels) amount)⟩
      else ⟨counters.series ++ [((name, labelKey labels), amount)]⟩ := by
  have listed : (counters.series.any fun entry => entry.1 == (name, labelKey labels)) = true ↔
      (name, labelKey labels) ∈ counters.series.map Prod.fst := by
    simp [List.any_eq_true]
  by_cases member : (name, labelKey labels) ∈ counters.series.map Prod.fst
  · rw [add, if_pos member]
    simp only [listed.mpr member, ↓reduceIte]
    rfl
  · rw [add, if_neg member]
    simp only [mt listed.mp member]
    rfl

theorem isDistinct_add {counters : Counters} (distinct : counters.IsDistinct) (name : String)
    (labels : List (Value × Value)) (amount : Int) :
    (counters.add name labels amount).IsDistinct := by
  rw [add_eq]
  split
  · rw [IsDistinct, List.map_map]
    have keys : Prod.fst ∘ bump (name, labelKey labels) amount = Prod.fst := by
      funext entry
      exact bump_fst _ _ entry
    rwa [keys]
  · rename_i absent
    rw [IsDistinct, List.map_append, List.map_singleton, ← List.concat_eq_append]
    exact distinct.concat absent

/-- What one series contributes to the sum of a name. -/
def share (name : String) (entry : (String × LabelKey) × Int) : Int :=
  if entry.1.1 = name then entry.2 else 0

theorem total_eq (counters : Counters) (name : String) :
    counters.total name = (counters.series.map (share name)).sum := by
  obtain ⟨series⟩ := counters
  induction series with
  | nil => rfl
  | cons entry rest ih =>
    unfold total at ih ⊢
    by_cases here : entry.1.1 = name
    · simpa [share, here] using ih
    · simpa [share, here] using ih

theorem sum_bump {series : List ((String × LabelKey) × Int)} {key : String × LabelKey}
    (distinct : (series.map Prod.fst).Nodup) (member : key ∈ series.map Prod.fst) (name : String)
    (amount : Int) : ((series.map (bump key amount)).map (share name)).sum =
      (series.map (share name)).sum + if key.1 = name then amount else 0 := by
  induction series with
  | nil => cases member
  | cons entry rest ih =>
    obtain ⟨alone, others⟩ := List.nodup_cons.mp distinct
    by_cases here : entry.1 = key
    · -- no further series has this key
      have same : rest.map (bump key amount) = rest := by
        refine (List.map_congr_left fun other listed => ?_).trans (List.map_id rest)
        have elsewhere : other.1 ≠ key := by
          intro again
          exact alone (here ▸ again ▸ List.mem_map_of_mem listed)
        simp [bump, elsewhere]
      rw [List.map_cons, same]
      by_cases named : key.1 = name
      · simp [bump, share, here, named]
        omega
      · simp [bump, share, here, named]
    · have later : key ∈ rest.map Prod.fst := by
        simpa [Ne.symm here] using member
      have rest := ih others later
      simp only [List.map_cons, List.sum_cons, rest, bump, here, beq_iff_eq, ↓reduceIte]
      omega

theorem total_add {counters : Counters} (distinct : counters.IsDistinct) (name other : String)
    (labels : List (Value × Value)) (amount : Int) :
    (counters.add name labels amount).total other = counters.total other +
      if name = other then amount else 0 := by
  rw [add_eq, total_eq, total_eq]
  split
  · rename_i member
    exact sum_bump distinct member other amount
  · simp [share]

end Counters

/-- What a notice adds to a series. -/
def Notice.adds (name : String) (labels : List (Value × Value)) : Notice → Int
  | .counted other amount others =>
    if (other, labelKey others) = (name, labelKey labels) then amount.integer?.getD 0 else 0
  | _ => 0

theorem Notice.value_count (notice : Notice) (counters : Counters) (name : String)
    (labels : List (Value × Value)) :
    (notice.count counters).value name labels =
      counters.value name labels + notice.adds name labels := by
  cases notice with
  | counted other amount others => exact Counters.value_add _ _ _ _ _ _
  | _ => simp [count, adds]

/-- What a notice adds to the sum of all series of a name. -/
def Notice.addsTo (name : String) : Notice → Int
  | .counted other amount _ => if other = name then amount.integer?.getD 0 else 0
  | _ => 0

theorem Notice.isDistinct_count {counters : Counters} (distinct : counters.IsDistinct)
    (notice : Notice) : (notice.count counters).IsDistinct := by
  cases notice with
  | counted name amount labels => exact Counters.isDistinct_add distinct _ _ _
  | _ => exact distinct

theorem Notice.total_count {counters : Counters} (distinct : counters.IsDistinct)
    (notice : Notice) (name : String) :
    (notice.count counters).total name = counters.total name + notice.addsTo name := by
  cases notice with
  | counted other amount labels => exact Counters.total_add distinct _ _ _ _
  | _ => simp [count, addsTo]

namespace Counters

theorem ofNotices_snoc (notices : List Notice) (notice : Notice) :
    ofNotices (notices ++ [notice]) = notice.count (ofNotices notices) := by
  simp [ofNotices]

theorem isDistinct_ofNotices (notices : List Notice) : (ofNotices notices).IsDistinct := by
  induction notices using List.reverseRecOn with
  | nil => exact List.nodup_nil
  | append_singleton notices notice ih =>
    rw [ofNotices_snoc]
    exact notice.isDistinct_count ih

theorem value_ofNotices (notices : List Notice) (name : String) (labels : List (Value × Value)) :
    (ofNotices notices).value name labels = (notices.map (Notice.adds name labels)).sum := by
  induction notices using List.reverseRecOn with
  | nil => rfl
  | append_singleton notices notice ih =>
    rw [ofNotices_snoc, Notice.value_count, ih, List.map_append, List.sum_append]
    simp

theorem total_ofNotices (notices : List Notice) (name : String) :
    (ofNotices notices).total name = (notices.map (Notice.addsTo name)).sum := by
  induction notices using List.reverseRecOn with
  | nil => rfl
  | append_singleton notices notice ih =>
    rw [ofNotices_snoc, Notice.total_count (isDistinct_ofNotices notices), ih, List.map_append,
      List.sum_append]
    simp

end Counters

theorem Notice.sum_eq_zero {adds : Notice → Int} {notices : List Notice}
    (none : ∀ notice ∈ notices, adds notice = 0) : (notices.map adds).sum = 0 := by
  apply List.sum_eq_zero
  intro amount member
  obtain ⟨notice, listed, rfl⟩ := List.mem_map.mp member
  exact none notice listed

namespace Desk

def sum (adds : Notice → Int) (desk : Desk) : Int := (desk.notices.map adds).sum

@[simp] theorem sum_note (adds : Notice → Int) (desk : Desk) (notice : Notice) :
    (desk.note notice).sum adds = desk.sum adds + adds notice := by
  simp [sum, note]

def written (desk : Desk) : Int := desk.counters.total "recorder_batches_written"

theorem written_eq_sum (desk : Desk) :
    desk.written = desk.sum (Notice.addsTo "recorder_batches_written") :=
  Counters.total_ofNotices _ _

def writtenAs (desk : Desk) (path : String) : Int :=
  desk.counters.value "recorder_batches_written" [(.str "task_path", .str path)]

theorem writtenAs_eq_sum (desk : Desk) (path : String) : desk.writtenAs path =
    desk.sum (Notice.adds "recorder_batches_written" [(.str "task_path", .str path)]) :=
  Counters.value_ofNotices _ _ _

def dropped (desk : Desk) (reason : String) : Int :=
  desk.counters.value "recorder_batches_dropped" [(.str "reason", .str reason)]

theorem dropped_eq_sum (desk : Desk) (reason : String) : desk.dropped reason =
    desk.sum (Notice.adds "recorder_batches_dropped" [(.str "reason", .str reason)]) :=
  Counters.value_ofNotices _ _ _

theorem dropped_note (desk : Desk) (notice : Notice) (reason : String) :
    (desk.note notice).dropped reason = desk.dropped reason +
      notice.adds "recorder_batches_dropped" [(.str "reason", .str reason)] := by
  rw [dropped_eq_sum, dropped_eq_sum, sum_note]

end Desk

theorem labelKey_single (name value : String) :
    labelKey [(.str name, .str value)] = [(name, value)] := by
  simp [labelKey, Value.shown]

/-- A tally adds its amount to the series of its own label. -/
theorem Tally.adds_dropped (reason wanted : String) (count : Nat) :
    (Tally.notice (.dropped reason count)).adds "recorder_batches_dropped"
      [(.str "reason", .str wanted)] = if reason = wanted then (count : Int) else 0 := by
  simp [Tally.notice, Notice.adds, Tally.series, Tally.label, Tally.amount, labelKey_single,
    Value.integer?]

end Transcript
