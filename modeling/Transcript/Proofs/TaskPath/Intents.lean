import Transcript.Proofs.Counter
import Transcript.Proofs.TaskPath

/-! The label of any batch. What counts of a batch is which intents its messages carry: not in what
order, not how often, and not which messages carry none. -/

namespace Transcript

namespace TaskPath

/-- Some message carries an intent, and all that carry one carry this one. -/
structure IsUniform (intents : List String) (tag : String) : Prop where
  some : intents ≠ []
  all : ∀ intent ∈ intents, intent = tag

/-- A special intent that some message carries, while another message carries another one. -/
structure Clashes (intents : List String) (tag : String) : Prop where
  special : tag = "ThreadSummarization" ∨ tag = "ThreadContextSummarization"
  occurs : tag ∈ intents
  other : ∃ intent ∈ intents, intent ≠ tag

variable {intents others : List String} {tag : String}

theorem isUniform_iff : isUniform intents tag = true ↔ IsUniform intents tag := by
  rw [isUniform, Bool.and_eq_true]
  constructor
  · rintro ⟨some, all⟩
    exact ⟨by simpa using some, by simpa using all⟩
  · rintro ⟨some, all⟩
    exact ⟨by simpa using some, by simpa using all⟩

theorem IsUniform.unique {other : String} (left : IsUniform intents tag)
    (right : IsUniform intents other) : tag = other := by
  obtain ⟨intent, member⟩ := List.exists_mem_of_ne_nil intents left.some
  rw [← left.all intent member, right.all intent member]

theorem not_isUniform_iff (occurs : tag ∈ intents) :
    ¬ IsUniform intents tag ↔ ∃ intent ∈ intents, intent ≠ tag := by
  constructor
  · intro mixed
    by_contra none
    push Not at none
    exact mixed ⟨List.ne_nil_of_mem occurs, none⟩
  · rintro ⟨intent, member, apart⟩ uniform
    exact apart (uniform.all intent member)

/-- The label of intents: that of the first special intent which all of them are. -/
theorem ofIntents_eq (intents : List String) :
    ofIntents intents = if isUniform intents "ThreadSummarization" then .summarization
      else if isUniform intents "ThreadContextSummarization" then .contextSummarization
      else .standard := by
  unfold ofIntents special
  simp only [List.find?_cons, List.find?_nil, Intent.name]
  cases isUniform intents "ThreadSummarization" <;>
    cases isUniform intents "ThreadContextSummarization" <;> rfl

/-- The order in which the special intents are asked for does not matter, as at most one of them is
the intent of a whole batch. -/
theorem ofIntents_iff (intents : List String) :
    (ofIntents intents = .summarization ↔ IsUniform intents "ThreadSummarization") ∧
      (ofIntents intents = .contextSummarization ↔
        IsUniform intents "ThreadContextSummarization") ∧
      (ofIntents intents = .standard ↔ ¬ IsUniform intents "ThreadSummarization" ∧
        ¬ IsUniform intents "ThreadContextSummarization") := by
  have apart : ¬ (isUniform intents "ThreadSummarization" = true ∧
      isUniform intents "ThreadContextSummarization" = true) := by
    rintro ⟨summary, context⟩
    exact absurd ((isUniform_iff.mp summary).unique (isUniform_iff.mp context)) (by decide)
  rw [ofIntents_eq, ← isUniform_iff, ← isUniform_iff]
  cases summary : isUniform intents "ThreadSummarization" with
  | true =>
    have only : isUniform intents "ThreadContextSummarization" = false := by
      simpa [summary] using apart
    simp [only]
  | false => cases isUniform intents "ThreadContextSummarization" <;> simp

theorem ofIntents_ne_iff {entry : Intent × TaskPath} (member : entry ∈ special) :
    ofIntents intents ≠ entry.2 ↔ ¬ IsUniform intents entry.1.name := by
  obtain ⟨summary, context, -⟩ := ofIntents_iff intents
  rcases List.mem_pair.mp member with rfl | rfl
  · exact not_congr summary
  · exact not_congr context

/-- The anomalies of a batch are the special intents that clash with another one. -/
theorem mem_anomalies_iff : tag ∈ anomalies intents ↔ Clashes intents tag := by
  simp only [anomalies, List.mem_map, List.mem_filter, Bool.and_eq_true, bne_iff_ne,
    List.contains_iff_mem]
  constructor
  · rintro ⟨entry, ⟨member, mixed, occurs⟩, rfl⟩
    refine ⟨?_, occurs, (not_isUniform_iff occurs).mp ((ofIntents_ne_iff member).mp mixed)⟩
    rcases List.mem_pair.mp member with rfl | rfl
    · exact .inl rfl
    · exact .inr rfl
  · rintro ⟨named, occurs, other⟩
    have mixed := (not_isUniform_iff occurs).mpr other
    rcases named with rfl | rfl
    · have member : (.threadSummarization, .summarization) ∈ special := List.mem_cons_self
      exact ⟨_, ⟨member, (ofIntents_ne_iff member).mpr mixed, occurs⟩, rfl⟩
    · have member : (.threadContextSummarization, .contextSummarization) ∈ special :=
        List.mem_cons_of_mem _ List.mem_cons_self
      exact ⟨_, ⟨member, (ofIntents_ne_iff member).mpr mixed, occurs⟩, rfl⟩

/-- A batch may clash with both special intents. -/
example : anomalies ["ThreadContextSummarization", "another", "ThreadSummarization"] =
    ["ThreadSummarization", "ThreadContextSummarization"] := by decide

theorem nodup_anomalies (intents : List String) : (anomalies intents).Nodup := by
  have listed : (anomalies intents).Sublist (special.map fun entry => entry.1.name) :=
    List.filter_sublist.map _
  exact listed.nodup (by decide)

/-- The series under which batches are counted that clash with a special intent. -/
def anomalyCount (desk : Desk) (tag : String) : Int :=
  desk.counters.value "recorder_task_path_anomaly" [(.str "tag", .str tag)]

theorem anomalyCount_fold (found tags : List String) (desk : Desk) (tag : String) :
    anomalyCount (tags.foldl (fun desk tag =>
        (desk.note (.taskPathAnomaly tag found)).note (Tally.notice (.anomaly tag))) desk) tag =
      anomalyCount desk tag + tags.count tag := by
  induction tags generalizing desk with
  | nil => simp
  | cons first rest ih =>
    have one : anomalyCount ((desk.note (.taskPathAnomaly first found)).note
        (Tally.notice (.anomaly first))) tag =
          anomalyCount desk tag + if first = tag then 1 else 0 := by
      simp only [anomalyCount, Desk.counters, Counters.value_ofNotices]
      simp [Desk.note, Notice.adds, Tally.notice, Tally.series, Tally.label, Tally.amount,
        labelKey_single, Value.integer?]
    rw [List.foldl_cons, ih, one, List.count_cons]
    by_cases same : first = tag
    · simp [same]
      omega
    · simp [same]

theorem counters_fold (found tags : List String) (desk : Desk) :
    (tags.foldl (fun desk tag =>
        (desk.note (.taskPathAnomaly tag found)).note
          (Tally.notice (.anomaly tag))) desk).counters =
      tags.foldl (fun counters tag => (Tally.notice (.anomaly tag)).count counters)
        desk.counters := by
  induction tags generalizing desk with
  | nil => rfl
  | cons first rest ih =>
    rw [List.foldl_cons, List.foldl_cons, ih]
    simp [Desk.counters, Desk.note, Counters.ofNotices, Notice.count]

theorem counters_classify (messages : List Message) (desk : Desk) :
    (classify messages desk).2.counters = (anomalies (TaskPath.intents messages)).foldl
      (fun counters tag => (Tally.notice (.anomaly tag)).count counters) desk.counters :=
  counters_fold _ _ _

theorem isUniform_congr (same : ∀ intent, intent ∈ others ↔ intent ∈ intents) (tag : String) :
    isUniform others tag = isUniform intents tag := by
  rw [Bool.eq_iff_iff, isUniform_iff, isUniform_iff]
  have empty : others = [] ↔ intents = [] := by
    simp only [List.eq_nil_iff_forall_not_mem, same]
  constructor
  · rintro ⟨some, all⟩
    exact ⟨mt empty.mpr some, fun intent member => all intent ((same intent).mpr member)⟩
  · rintro ⟨some, all⟩
    exact ⟨mt empty.mp some, fun intent member => all intent ((same intent).mp member)⟩

theorem ofIntents_congr (same : ∀ intent, intent ∈ others ↔ intent ∈ intents) :
    ofIntents others = ofIntents intents := by
  simp only [ofIntents_eq, isUniform_congr same]

theorem anomalies_congr (same : ∀ intent, intent ∈ others ↔ intent ∈ intents) :
    anomalies others = anomalies intents := by
  have inside (tag : String) : others.contains tag = intents.contains tag := by
    rw [Bool.eq_iff_iff, List.contains_iff_mem, List.contains_iff_mem]
    exact same tag
  simp only [anomalies, ofIntents_congr same, inside]

/-- One batch comes from the other by putting its messages in another order, by repeating some of
them, and by adding or leaving out messages that carry no intent. -/
inductive Regrouped : List Message → List Message → Prop where
  | permuted {messages after : List Message} : messages.Perm after → Regrouped messages after
  | repeated {messages : List Message} {message : Message} :
    message ∈ messages → Regrouped messages (message :: messages)
  | silent {messages : List Message} {message : Message} :
    intent? message = none → Regrouped messages (message :: messages)
  | undone {messages after : List Message} : Regrouped messages after → Regrouped after messages
  | followed {messages between after : List Message} :
    Regrouped messages between → Regrouped between after → Regrouped messages after

/-- Regrouping keeps which intents occur. -/
theorem Regrouped.mem_intents {messages after : List Message} (regrouped : Regrouped messages after)
    (intent : String) : intent ∈ TaskPath.intents after ↔ intent ∈ TaskPath.intents messages := by
  induction regrouped with
  | permuted perm => exact (perm.filterMap intent?).symm.mem_iff
  | @repeated messages message member =>
    rw [TaskPath.intents, List.filterMap_cons]
    cases carried : intent? message with
    | none => rfl
    | some tag =>
      have listed : tag ∈ TaskPath.intents messages :=
        List.mem_filterMap.mpr ⟨message, member, carried⟩
      constructor
      · intro found
        rcases List.mem_cons.mp found with rfl | found
        · exact listed
        · exact found
      · exact List.mem_cons_of_mem tag
  | silent none => rw [TaskPath.intents, List.filterMap_cons, none, TaskPath.intents]
  | undone _ ih => exact ih.symm
  | followed _ _ first second => exact second.trans first

/-- What is said and counted of a batch with these intents: the label is that of the one special
intent which all of them are, and the batch counts once for each special intent that clashes with
another intent. -/
structure Judges (intents : List String) (desk : Desk) (outcome : TaskPath × Desk) : Prop where
  summarization : outcome.1.name = "summarization" ↔ IsUniform intents "ThreadSummarization"
  contextSummarization : outcome.1.name = "context_summarization" ↔
    IsUniform intents "ThreadContextSummarization"
  standard : outcome.1.name = "standard" ↔
    ¬ IsUniform intents "ThreadSummarization" ∧ ¬ IsUniform intents "ThreadContextSummarization"
  counted : ∀ tag, Clashes intents tag →
    anomalyCount outcome.2 tag = anomalyCount desk tag + 1
  uncounted : ∀ tag, ¬ Clashes intents tag → anomalyCount outcome.2 tag = anomalyCount desk tag

theorem name_inj {left right : TaskPath} : left.name = right.name ↔ left = right := by
  cases left <;> cases right <;> decide

theorem judges_classify (messages : List Message) (desk : Desk) :
    Judges (TaskPath.intents messages) desk (classify messages desk) := by
  obtain ⟨summary, context, standard⟩ := ofIntents_iff (TaskPath.intents messages)
  have counts (tag : String) : anomalyCount (classify messages desk).2 tag =
      anomalyCount desk tag + (anomalies (TaskPath.intents messages)).count tag :=
    anomalyCount_fold _ _ _ _
  constructor
  case summarization => exact name_inj.trans summary
  case contextSummarization => exact name_inj.trans context
  case standard => exact name_inj.trans standard
  case counted =>
    intro tag clashes
    rw [counts, (nodup_anomalies _).count, if_pos (mem_anomalies_iff.mpr clashes)]
    rfl
  case uncounted =>
    intro tag peaceful
    rw [counts, List.count_eq_zero.mpr (mt mem_anomalies_iff.mp peaceful)]
    exact Int.add_zero _

theorem classify_congr {messages after : List Message} (desk : Desk)
    (same : ∀ intent, intent ∈ TaskPath.intents after ↔ intent ∈ TaskPath.intents messages) :
    (classify after desk).1 = (classify messages desk).1 ∧
      (classify after desk).2.counters = (classify messages desk).2.counters := by
  constructor
  · exact ofIntents_congr same
  · rw [counters_classify, counters_classify, anomalies_congr same]

/-- A batch is labelled and counted by which texts its messages carry as their intents. It makes no
difference in what order the messages come, how often one is repeated, and what messages there are
whose metadata hold no text as the intent. -/
theorem judged_by_intents (messages : List Message) (desk : Desk) :
    Judges (messages.filterMap fun message =>
        (message.responseMetadata.lookup "intent").bind Value.text?) desk
      (classify messages desk) ∧
    ∀ after, Regrouped messages after →
      (classify after desk).1 = (classify messages desk).1 ∧
        (classify after desk).2.counters = (classify messages desk).2.counters := by
  have carried : (fun message : Message =>
      (message.responseMetadata.lookup "intent").bind Value.text?) = intent? := by
    funext message
    rw [intent?]
    cases message.responseMetadata.lookup "intent" with
    | none => rfl
    | some value => cases value <;> rfl
  rw [carried]
  exact ⟨judges_classify messages desk,
    fun after regrouped => classify_congr desk regrouped.mem_intents⟩

end TaskPath

end Transcript
