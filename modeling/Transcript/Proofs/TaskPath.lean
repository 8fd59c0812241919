import Transcript.Metadata
import Transcript.TaskPath

namespace Transcript

namespace TaskPath

/-- The label that an intent gives to the messages that carry it. -/
def ofIntent : Option Intent → TaskPath
  | some .threadSummarization => .summarization
  | some .threadContextSummarization => .contextSummarization
  | _ => .standard

/-- A label of its own tells the intent that gives it, and every other intent gives the standard
one. -/
theorem ofIntent_name (intent : Option Intent) :
    ((ofIntent intent).name = "summarization" ↔ intent = some .threadSummarization) ∧
      ((ofIntent intent).name = "context_summarization" ↔
        intent = some .threadContextSummarization) ∧
      ((ofIntent intent).name = "standard" ↔ intent ≠ some .threadSummarization ∧
        intent ≠ some .threadContextSummarization) := by
  cases intent with
  | none => simp [ofIntent, name]
  | some given => cases given <;> simp [ofIntent, name]

/-- The messages all carry one intent, or none of them carries any. -/
def Carry (intent : Option Intent) (messages : List Message) : Prop :=
  ∀ message ∈ messages, intent? message = intent.map Intent.name

variable {intent : Option Intent} {messages : List Message}

theorem Carry.intents_none (carry : Carry none messages) : intents messages = [] :=
  List.filterMap_eq_nil_iff.mpr carry

theorem Carry.intents_some {given : Intent} (carry : Carry (some given) messages) :
    intents messages = List.replicate messages.length given.name := by
  induction messages with
  | nil => rfl
  | cons message rest ih =>
    obtain ⟨here, later⟩ := List.forall_mem_cons.mp carry
    rw [intents, List.filterMap_cons, here, Option.map_some, List.length_cons,
      List.replicate_succ, ← ih later]
    rfl

theorem isUniform_replicate (size : Nat) (name tag : String) :
    isUniform (List.replicate (size + 1) name) tag = (name == tag) := by
  simp [isUniform]

theorem ofIntents_replicate (size : Nat) (given : Intent) :
    ofIntents (List.replicate (size + 1) given.name) = ofIntent (some given) := by
  simp only [ofIntents, isUniform_replicate]
  cases given <;> rfl

theorem anomalies_replicate (size : Nat) (given : Intent) :
    anomalies (List.replicate (size + 1) given.name) = [] := by
  have inside (tag : String) :
      (List.replicate (size + 1) given.name).contains tag = (tag == given.name) := by
    simp [Bool.beq_eq_decide_eq]
  simp only [anomalies, ofIntents_replicate, inside]
  cases given <;> rfl

/-- A batch whose messages agree is labelled by their intent, and nothing is noted. -/
theorem Carry.classify (carry : Carry intent messages) (some : messages ≠ []) (desk : Desk) :
    TaskPath.classify messages desk = (ofIntent intent, desk) := by
  cases intent with
  | none =>
    rw [TaskPath.classify, carry.intents_none]
    rfl
  | some given =>
    obtain ⟨size, length⟩ := Nat.exists_eq_add_one_of_ne_zero (mt List.length_eq_zero_iff.mp some)
    rw [TaskPath.classify, carry.intents_some, length]
    simp only [ofIntents_replicate, anomalies_replicate]
    rfl

theorem Carry.ofIntents_eq (carry : Carry intent messages) (some : messages ≠ []) :
    ofIntents (intents messages) = ofIntent intent :=
  congrArg Prod.fst (carry.classify some {})

end TaskPath

theorem lookup_entryIf {α : Type} (name : String) (value : α → Value) (content : Option α)
    (key : String) (rest : Mapping) : (entryIf name value content ++ rest).lookup key =
      if key = name then (content.map value).or (rest.lookup key) else rest.lookup key := by
  cases content with
  | none => simp [entryIf]
  | some content =>
    by_cases same : key = name
    · simp [entryIf, same]
    · simp [entryIf, List.lookup_cons, same, beq_eq_false_iff_ne.mpr same]

/-- The metadata of a message names the intent of the request behind it, if that has one. -/
theorem completionMetadata_intent (request : Option Request) (model : ModelArgs) :
    (completionMetadata request model).lookup "intent" =
      (request.bind Request.intent).map fun intent => .str intent.name := by
  have own : ((request.map Request.metadata).getD []).lookup "intent" =
      (request.bind Request.intent).map fun intent => .str intent.name := by
    cases request with
    | none => rfl
    | some request =>
      have last := lookup_entryIf "prompt_id" .str request.promptId "intent" []
      simp only [List.append_nil] at last
      simp [Request.metadata, lookup_entryIf, last]
  unfold completionMetadata
  split <;> simpa [List.lookup_cons] using own

end Transcript
