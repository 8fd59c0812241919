import Transcript.Proofs.Counter

/-! Counters and the history of what was emitted. A series is found by the sorted texts of its
labels, so labels select the same one exactly when they have the same pairs of texts, in any order.
Every count is therefore a sum over the plain list of emissions since the last reset, and reading
leaves no trace. -/

namespace Transcript

/-- The texts by which labels are told apart. -/
def labelTexts (labels : List (Value × Value)) : LabelKey :=
  labels.map fun label => (label.1.shown, label.2.shown)

theorem labelLe_iff {left right : String × String} :
    labelLe left right = true ↔ left.1 < right.1 ∨ left.1 = right.1 ∧ left.2 ≤ right.2 := by
  rw [labelLe, Bool.or_eq_true, Bool.and_eq_true, decide_eq_true_iff, beq_iff_eq,
    Bool.not_eq_true', decide_eq_false_iff_not, String.not_lt]

theorem labelLe_total (left right : String × String) :
    (labelLe left right || labelLe right left) = true := by
  rw [Bool.or_eq_true, labelLe_iff, labelLe_iff]
  by_cases below : left.1 < right.1
  · exact .inl (.inl below)
  · by_cases above : right.1 < left.1
    · exact .inr (.inl above)
    · have same : left.1 = right.1 :=
        String.le_antisymm (String.not_lt.mp above) (String.not_lt.mp below)
      rcases String.le_total left.2 right.2 with low | high
      · exact .inl (.inr ⟨same, low⟩)
      · exact .inr (.inr ⟨same.symm, high⟩)

theorem labelLe_trans (left middle right : String × String) (first : labelLe left middle = true)
    (second : labelLe middle right = true) : labelLe left right = true := by
  rw [labelLe_iff] at *
  rcases first with below | ⟨same, low⟩
  · rcases second with further | ⟨same, _⟩
    · exact .inl (String.lt_trans below further)
    · exact .inl (same ▸ below)
  · rcases second with further | ⟨also, high⟩
    · exact .inl (same ▸ further)
    · exact .inr ⟨same.trans also, String.le_trans low high⟩

theorem labelLe_antisymm {left right : String × String} (first : labelLe left right = true)
    (second : labelLe right left = true) : left = right := by
  rw [labelLe_iff] at *
  rcases first with below | ⟨same, low⟩
  · rcases second with above | ⟨same, _⟩
    · exact absurd (String.lt_trans below above) (String.lt_irrefl _)
    · exact absurd below (same ▸ String.lt_irrefl _)
  · rcases second with above | ⟨_, high⟩
    · exact absurd above (same ▸ String.lt_irrefl _)
    · exact Prod.ext same (String.le_antisymm low high)

/-- Labels select the same series exactly when they have the same pairs of texts, each as often, in
any order. -/
theorem labelKey_eq_iff {left right : List (Value × Value)} :
    labelKey left = labelKey right ↔ (labelTexts left).Perm (labelTexts right) := by
  have sorted (labels : List (Value × Value)) :
      (labelKey labels).Pairwise fun one other => labelLe one other = true :=
    List.pairwise_mergeSort labelLe_trans labelLe_total _
  have perm (labels : List (Value × Value)) : (labelKey labels).Perm (labelTexts labels) :=
    List.mergeSort_perm _ _
  constructor
  · intro same
    exact (perm left).symm.trans (same ▸ perm right)
  · intro texts
    refine List.Perm.eq_of_pairwise ?_ (sorted left) (sorted right)
      ((perm left).trans (texts.trans (perm right).symm))
    intro one other _ _ low high
    exact labelLe_antisymm low high

namespace Counters

/-- What a caller may ask of the counters; labels may be left out. -/
inductive Call where
  | emit (name : String) (amount : Int) (labels : Option (List (Value × Value)))
  | read (name : String) (labels : Option (List (Value × Value)))
  | reset

def after (counters : Counters) : Call → Counters
  | .emit name amount labels =>
    (Notice.counted name (.int amount) (labels.getD [])).count counters
  | .read .. => counters
  | .reset => {}

def afterAll (calls : List Call) : Counters := calls.foldl after {}

@[simp] theorem afterAll_snoc (calls : List Call) (call : Call) :
    afterAll (calls ++ [call]) = (afterAll calls).after call := by
  simp [afterAll]

theorem isDistinct_after {counters : Counters} (distinct : counters.IsDistinct) (call : Call) :
    (counters.after call).IsDistinct := by
  cases call with
  | emit name amount labels => exact Notice.isDistinct_count distinct _
  | read name labels => exact distinct
  | reset => exact List.nodup_nil

theorem isDistinct_afterAll (calls : List Call) : (afterAll calls).IsDistinct := by
  induction calls using List.reverseRecOn with
  | nil => exact List.nodup_nil
  | append_singleton calls call ih =>
    rw [afterAll_snoc]
    exact isDistinct_after ih call

/-- An amount that was emitted. -/
structure Emission where
  name : String
  amount : Int
  labels : List (Value × Value)

/-- A query asks for the emissions of a name: for all of them, or for those with the same pairs of
texts for labels. -/
def Emission.meets (name : String) (labels : Option (List (Value × Value)))
    (emission : Emission) : Bool :=
  emission.name == name &&
    labels.all fun labels => decide ((labelTexts emission.labels).Perm (labelTexts labels))

def Call.emission? : Call → Option Emission
  | .emit name amount labels => some ⟨name, amount, labels.getD []⟩
  | .read .. | .reset => none

def Call.isReset : Call → Bool
  | .reset => true
  | .emit .. | .read .. => false

def Call.isRead : Call → Bool
  | .read .. => true
  | .emit .. | .reset => false

/-- The emissions since the last reset, in order. -/
def sinceReset (calls : List Call) : List Emission :=
  (calls.reverse.takeWhile fun call => !call.isReset).reverse.filterMap Call.emission?

def sumOf (emissions : List Emission) (name : String) (labels : Option (List (Value × Value))) :
    Int :=
  ((emissions.filter (Emission.meets name labels)).map Emission.amount).sum

theorem sinceReset_snoc (calls : List Call) (call : Call) :
    sinceReset (calls ++ [call]) =
      if call.isReset then [] else sinceReset calls ++ call.emission?.toList := by
  cases call <;> simp [sinceReset, Call.isReset, Call.emission?]

theorem sumOf_snoc (emissions : List Emission) (emission : Emission) (name : String)
    (labels : Option (List (Value × Value))) :
    sumOf (emissions ++ [emission]) name labels = sumOf emissions name labels +
      if emission.meets name labels then emission.amount else 0 := by
  by_cases met : emission.meets name labels <;> simp [sumOf, List.filter_append, met]

/-- An emission adds to the counts that ask for it. -/
theorem query_emit {counters : Counters} (distinct : counters.IsDistinct) (emitted : String)
    (amount : Int) (given : Option (List (Value × Value))) (name : String)
    (labels : Option (List (Value × Value))) :
    (counters.after (.emit emitted amount given)).query name labels =
      counters.query name labels +
        if Emission.meets name labels ⟨emitted, amount, given.getD []⟩ then amount else 0 := by
  cases labels with
  | none =>
    have total := Notice.total_count distinct (.counted emitted (.int amount) (given.getD [])) name
    simpa [query, after, Emission.meets, Notice.addsTo, Value.integer?] using total
  | some labels =>
    have value := Notice.value_count (.counted emitted (.int amount) (given.getD [])) counters name
      labels
    simpa [query, after, Emission.meets, Notice.adds, Value.integer?, labelKey_eq_iff] using value

/-- After any calls a query is answered from the history. -/
theorem query_afterAll (calls : List Call) (name : String)
    (labels : Option (List (Value × Value))) :
    (afterAll calls).query name labels = sumOf (sinceReset calls) name labels := by
  induction calls using List.reverseRecOn with
  | nil => cases labels <;> rfl
  | append_singleton calls call ih =>
    rw [afterAll_snoc, sinceReset_snoc]
    cases call with
    | emit emitted amount given =>
      rw [query_emit (isDistinct_afterAll calls), ih]
      exact (sumOf_snoc _ _ _ _).symm
    | read => simpa [after, Call.isReset, Call.emission?] using ih
    | reset => cases labels <;> rfl

/-- Reads leave the counters as they are, so they may be left out. -/
theorem afterAll_filter_isRead (calls : List Call) :
    afterAll (calls.filter fun call => !call.isRead) = afterAll calls := by
  induction calls using List.reverseRecOn with
  | nil => rfl
  | append_singleton calls call ih =>
    rw [List.filter_append, afterAll_snoc, ← ih]
    cases call with
    | read => simp [Call.isRead, after]
    | emit => simp [Call.isRead]
    | reset => simp [Call.isRead]

theorem mem_series_add {counters : Counters} {name : String} {labels : List (Value × Value)}
    {amount : Int} {key : String × LabelKey} :
    key ∈ (counters.add name labels amount).series.map Prod.fst ↔
      key ∈ counters.series.map Prod.fst ∨ key = (name, labelKey labels) := by
  rw [add_eq]
  split
  · rename_i listed
    have keys : (counters.series.map (bump (name, labelKey labels) amount)).map Prod.fst =
        counters.series.map Prod.fst := by
      rw [List.map_map]
      exact List.map_congr_left fun entry _ => bump_fst _ _ entry
    rw [keys]
    exact ⟨.inl, fun found => found.elim id fun same => same ▸ listed⟩
  · simp

/-- The series that are listed are those that were emitted since the last reset. -/
theorem mem_series_afterAll {calls : List Call} {key : String × LabelKey} :
    key ∈ (afterAll calls).series.map Prod.fst ↔
      ∃ emission ∈ sinceReset calls, key = (emission.name, labelKey emission.labels) := by
  induction calls using List.reverseRecOn with
  | nil => simp [afterAll, sinceReset]
  | append_singleton calls call ih =>
    rw [afterAll_snoc, sinceReset_snoc]
    cases call with
    | emit name amount labels =>
      rw [after, Notice.count, mem_series_add, ih]
      simp [Call.isReset, Call.emission?, or_and_right, exists_or]
    | read => simpa [after, Call.isReset, Call.emission?] using ih
    | reset => simp [after, Call.isReset]

/-- After any calls every query is answered by the sum of the emissions since the last reset that it
asks for, as if no read had been made; and the series that are listed are those of these
emissions. -/
theorem counts_are_sums_of_history (calls : List Call) :
    (∀ name labels,
      (afterAll calls).query name labels = sumOf (sinceReset calls) name labels) ∧
    afterAll (calls.filter fun call => !call.isRead) = afterAll calls ∧
    ∀ key, key ∈ (afterAll calls).series.map Prod.fst ↔
      ∃ emission ∈ sinceReset calls, key = (emission.name, labelKey emission.labels) :=
  ⟨query_afterAll calls, afterAll_filter_isRead calls, fun _ => mem_series_afterAll⟩

/-- Labels with the same texts in another order are the same; left out, they are none to an emission
and any to a query. -/
example :
    let counters := afterAll [.emit "d" 2 (some [(.int 1, .str "a"), (.str "b", .null)]),
      .emit "d" 5 none, .emit "d" 1 (some [(.str "b", .str "None"), (.str "1", .str "a")])]
    counters.query "d" (some [(.str "b", .null), (.int 1, .str "a")]) = 3 ∧
      counters.query "d" (some []) = 5 ∧ counters.query "d" none = 8 := by
  cbv

end Counters

end Transcript
