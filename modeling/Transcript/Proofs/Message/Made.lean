import Transcript.Proofs.Desk
import Transcript.Proofs.Message.Flat
import Transcript.Stream

namespace Transcript

namespace Recording

variable {α β : Type} {holds : α → Prop}

/-- Whatever the work yields has a property; it may fail. -/
def Yields (work : Recording α) (holds : α → Prop) : Prop :=
  ∀ desk value, (work.result desk).1 = .ok value → holds value

namespace Yields

theorem pure {value : α} (here : holds value) : Yields (Pure.pure value) holds := by
  intro desk other yields
  cases yields
  exact here

theorem throw (fault : Fault) : Yields (MonadExcept.throw fault : Recording α) holds := by
  intro desk value yields
  cases yields

theorem any (work : Recording α) : Yields work fun _ => True := fun _ _ _ => trivial

theorem bind {work : Recording α} {next : α → Recording β} {later : β → Prop}
    (first : Yields work holds) (goes : ∀ value, holds value → Yields (next value) later) :
    Yields (work >>= next) later := by
  intro desk result yields
  rw [result_bind] at yields
  have here := first desk
  rcases reached : work.result desk with ⟨outcome, after⟩
  rw [reached] at yields here
  cases outcome with
  | error fault => cases yields
  | ok value => exact goes value (here value rfl) after result yields

theorem map {work : Recording α} {later : β → Prop} {f : α → β} (first : Yields work holds)
    (goes : ∀ value, holds value → later (f value)) : Yields (f <$> work) later := by
  rw [map_eq_pure_bind]
  exact first.bind fun value here => .pure (goes value here)

theorem ofChecked {checked : Checked α} (valid : ∀ value, checked = .valid value → holds value) :
    Yields (Recording.ofChecked checked) holds := by
  cases checked with
  | valid value => exact .pure (valid value rfl)
  | invalid issues => exact .throw _

end Yields

end Recording

def ModelArgs.ofTexts (modelId : String) (providerId : Option String) : ModelArgs where
  modelId := .str modelId
  providerId := (providerId.map .str).getD .null

/-- An origin whose model is named by texts. -/
def Origin.IsPlain (origin : Origin) : Prop :=
  ∃ modelId providerId, origin.model = .ofTexts modelId providerId

namespace Mapping

/-- Scalars under some of a number of different names make a flat mapping. -/
theorem isFlat_of_names {mapping : Mapping} (names : List String)
    (scalars : ∀ entry ∈ mapping, entry.2.IsScalar)
    (chosen : (mapping.map Prod.fst).Sublist names) (once : names.Nodup)
    (plain : ∀ name ∈ names, '\x00' ∉ name.toList) : Mapping.IsFlat mapping where
  scalars := scalars
  once := once.sublist chosen
  names := by
    intro entry member
    have named := chosen.subset (List.mem_map.mpr ⟨entry, member, rfl⟩)
    exact Json.textWithoutNul_of_plain (plain entry.1 named)

theorem isFlat_nil : Mapping.IsFlat [] :=
  isFlat_of_names [] (by simp) (List.Sublist.refl []) (by simp) (by simp)

variable {α : Type} {value : α → Value} {content : Option α}

theorem entryIf_names (name : String) :
    ((entryIf name value content).map Prod.fst).Sublist [name] := by
  cases content with
  | none => exact List.nil_sublist _
  | some content => exact .refl _

theorem entryIf_scalars {name : String}
    (scalar : ∀ one, content = some one → (value one).IsScalar) :
    ∀ entry ∈ entryIf name value content, entry.2.IsScalar := by
  intro entry member
  cases content with
  | none => cases member
  | some one =>
    cases List.mem_singleton.mp member
    exact scalar one rfl

end Mapping

namespace Request

/-- The names under which a request adds to metadata. -/
def metadataNames : List String := ["temperature", "intent", "mode", "prompt_id"]

theorem metadata_names (request : Request) :
    (request.metadata.map Prod.fst).Sublist metadataNames := by
  simp only [metadata, List.map_append]
  exact (((Mapping.entryIf_names "temperature").append (Mapping.entryIf_names "intent")).append
    (Mapping.entryIf_names "mode")).append (Mapping.entryIf_names "prompt_id")

theorem metadata_scalars (request : Request) : ∀ entry ∈ request.metadata, entry.2.IsScalar := by
  intro entry member
  simp only [metadata, List.mem_append] at member
  rcases member with ((temperature | intent) | mode) | promptId
  · exact Mapping.entryIf_scalars (fun _ _ => .float _) entry temperature
  · exact Mapping.entryIf_scalars (fun _ _ => .str _) entry intent
  · exact Mapping.entryIf_scalars (fun _ _ => .str _) entry mode
  · exact Mapping.entryIf_scalars (fun _ _ => .str _) entry promptId

end Request

variable {origin : Origin}

theorem Origin.IsPlain.metadata_flat (plain : origin.IsPlain) :
    Mapping.IsFlat (completionMetadata origin.request origin.model) := by
  obtain ⟨modelId, providerId, model⟩ := plain
  rw [model]
  have provider : (ModelArgs.ofTexts modelId providerId).providerId.IsScalar := by
    cases providerId with
    | none => exact .null
    | some providerId => exact .str providerId
  have scalars : ∀ entry ∈ (origin.request.map Request.metadata).getD [], entry.2.IsScalar := by
    cases origin.request with
    | none => simp
    | some request => exact request.metadata_scalars
  have names : (((origin.request.map Request.metadata).getD []).map Prod.fst).Sublist
      Request.metadataNames := by
    cases origin.request with
    | none => exact List.nil_sublist _
    | some request => exact request.metadata_names
  unfold completionMetadata
  refine Mapping.isFlat_of_names ("model_id" :: ["provider_id"] ++ Request.metadataNames)
    ?_ ?_ (by decide) (by decide)
  · intro entry member
    rw [List.mem_cons, List.mem_append] at member
    rcases member with rfl | given | added
    · exact .str modelId
    · split at given
      · cases List.mem_singleton.mp given
        exact provider
      · cases given
    · exact scalars entry added
  · rw [List.map_cons, List.map_append, List.cons_append]
    refine (List.Sublist.append ?_ names).cons_cons _
    split
    · exact .refl _
    · exact List.nil_sublist _

namespace Message

open Recording (Yields)

theorem make_flat (plain : origin.IsPlain) (content : String) (id : Value) {extras : Mapping}
    (flat : Mapping.IsFlat extras) {variant : Variant} (simple : variant.IsFlat) :
    Yields (make origin content id extras variant) Message.IsFlat := by
  refine .ofChecked fun message valid => ?_
  cases idChecked : (Validation.text id).inside "id" <;>
    cases nameChecked : (Validation.nullable Validation.text origin.agent).inside "name" <;>
    rw [idChecked, nameChecked] at valid <;> cases valid
  exact ⟨flat, plain.metadata_flat, simple⟩

theorem thinkingExtras_flat (content : String) (signature : Option String) :
    Mapping.IsFlat (thinkingExtras content signature) := by
  refine Mapping.isFlat_of_names ["thinking", "signature"] ?_
    ((Mapping.entryIf_names "signature").cons_cons _) (by decide) (by decide)
  refine List.forall_mem_cons.mpr ⟨.str content, ?_⟩
  exact Mapping.entryIf_scalars fun one _ => .str one

theorem toolExtras_flat (use : ToolUse) : Mapping.IsFlat
    [("raw_input", .str use.rawInput), ("is_input_complete", .bool use.isInputComplete)] := by
  refine Mapping.isFlat_of_names ["raw_input", "is_input_complete"] ?_ (.refl _)
    (by decide) (by decide)
  intro entry member
  simp only [List.mem_cons, List.not_mem_nil, or_false] at member
  rcases member with rfl | rfl
  · exact .str _
  · exact .bool _

/-- Every message of an event is flat. -/
theorem ofEvent_flat (plain : origin.IsPlain) (checkpointId : Value) (event : Event) :
    Yields (ofEvent origin checkpointId event) fun made => ∀ message ∈ made, message.IsFlat := by
  have make (content : String) (id : Value) {extras : Mapping} (flat : Mapping.IsFlat extras)
      {variant : Variant} (simple : variant.IsFlat) :
      Yields (some <$> make origin content id extras variant)
        fun made => ∀ message ∈ made, message.IsFlat := by
    refine (make_flat plain content id flat simple).map fun message flat other member => ?_
    cases member
    exact flat
  cases event with
  | statusUpdate | startMessage | usageUpdate => exact .pure fun message member => nomatch member
  | text content => exact (Yields.any _).bind fun id _ => make content id Mapping.isFlat_nil .ai
  | thinking content signature =>
    exact (Yields.any _).bind fun id _ =>
      make content id (thinkingExtras_flat content signature) .ai
  | stop => exact (Yields.any _).bind fun id _ => make stopSentinel id Mapping.isFlat_nil .ai
  | toolUse use =>
    exact (Yields.any _).bind fun _ _ => (Yields.any _).bind fun content _ =>
      (Yields.any _).bind fun id _ => make content id (toolExtras_flat use) (.tool _ _)

theorem ofRole_flat (role : Role) : (ofRole role).IsFlat := by
  cases role with
  | user => exact .human
  | system => exact .system
  | assistant => exact .ai

/-- Every message of the turns of a request is flat. -/
theorem ofTurns_flat (plain : origin.IsPlain) (identity : Identity) (turns : List Outgoing) :
    Yields (ofTurns origin identity turns) fun made => ∀ message ∈ made, message.IsFlat := by
  have one (turn : Outgoing) : Yields (ofTurn origin identity turn) Message.IsFlat :=
    (Yields.any _).bind fun content _ => (Yields.any _).bind fun id _ =>
      (Yields.any _).bind fun role _ =>
        make_flat plain content id Mapping.isFlat_nil (ofRole_flat role)
  induction turns with
  | nil => exact .pure fun message member => nomatch member
  | cons turn rest ih =>
    refine (one turn).bind fun first flat => ih.bind fun others flats => .pure ?_
    exact List.forall_mem_cons.mpr ⟨flat, flats⟩

end Message

theorem Item.message_flat (plain : origin.IsPlain) (checkpointId : Value) (item : Item) :
    Recording.Yields (item.message origin checkpointId)
      fun made => ∀ message ∈ made, message.IsFlat := by
  cases item with
  | event event => exact Message.ofEvent_flat plain checkpointId event
  | failure | other => exact (Recording.Yields.any _).bind fun _ _ => .throw _

end Transcript
