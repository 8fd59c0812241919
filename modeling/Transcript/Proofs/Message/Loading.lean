import Transcript.Message.Load
import Transcript.Proofs.Message.Draft

namespace Transcript

namespace Validation

variable {α : Type} {entries : List (Value × Value)} {name : String} {input : Value}

theorem required_valid {check : Value → Checked α} {result : α}
    (found : Value.lookup? entries name = some input) (valid : check input = .valid result) :
    required entries name check = .valid result := by
  rw [required, found]
  simp only [valid]
  rfl

theorem optional_valid {check : Value → Checked α} {absent result : α}
    (found : Value.lookup? entries name = some input) (valid : check input = .valid result) :
    optional entries name absent check = .valid result := by
  rw [optional, found]
  simp only [valid]
  rfl

theorem optionalNullable_valid {check : Value → Checked α} {result : Option α}
    (found : Value.lookup? entries name = some input)
    (valid : nullable check input = .valid result) :
    optionalNullable entries name check = .valid result :=
  optional_valid found valid

theorem tagField_valid {kind : String}
    (found : Value.lookup? entries name = some (.str kind)) :
    tagField entries name kind = .valid () := by
  apply optional_valid found
  simp [literal, oneOf, Checked.ofOption]

/-- The value of an object with each key once is a mapping. -/
theorem mapping_valid {entries : List (String × Json)}
    (once : (entries.map Prod.fst).Nodup) :
    mapping (Json.obj entries).toValue = .valid (Json.toMapping entries) := by
  have texts (mapping : Mapping) :
      textEntries (mapping.map fun entry => (.str entry.1, entry.2)) = .valid mapping := by
    induction mapping with
    | nil => rfl
    | cons entry rest ih =>
      rw [List.map_cons, textEntries, ih]
      rfl
  rw [Json.toValue_obj once, Value.ofMapping, mapping, entries?]
  simp only [texts]
  rw [← Json.keys_toMapping] at once
  exact congrArg Checked.valid (collapse_of_nodup once)

/-- An object is read by the check that its tag names. -/
theorem tagged_valid {variant? : String → Option (List (Value × Value) → Checked α)}
    {tag : String} {build : List (Value × Value) → Checked α} {result : α}
    (found : Value.lookup? entries name = some (.str tag)) (byTag : variant? tag = some build)
    (built : build entries = .valid result) (source : Source) :
    tagged source name variant? (.mapping entries) = .valid result := by
  unfold tagged
  simp only [entries?, found, byTag, built]
  rfl

theorem itemsFrom_toValues {β : Type} {check : Value → Checked α} {document : β → Json}
    {result : β → α} {items : List β}
    (each : ∀ item ∈ items, check (document item).toValue = .valid (result item)) (position : Int) :
    itemsFrom check position (Json.toValues (items.map document)) = .valid (items.map result) := by
  induction items generalizing position with
  | nil => rfl
  | cons item rest ih =>
    obtain ⟨here, later⟩ := List.forall_mem_cons.mp each
    rw [List.map_cons, Json.toValues, itemsFrom, here, ih later]
    rfl

theorem listOf_text (items : List String) :
    listOf text (.list (Json.toValues (items.map .str))) = .valid items := by
  have each : ∀ item ∈ items, text (Json.str item).toValue = .valid (id item) := fun _ _ => rfl
  exact (itemsFrom_toValues each 0).trans (congrArg Checked.valid (List.map_id items))

end Validation

namespace Message

open Validation
open Json (KeysOnce Agree valueEntries)

theorem load_content (content : Content) :
    Content.load (Draft.contentDocument content).toValue = .valid content := by
  cases content with
  | text content => rfl
  | texts items =>
    have valid := listOf_text items
    unfold Content.load either
    simp only [Draft.contentDocument, Json.toValue, text, Checked.fail, valid]

namespace Draft

/-- Parts that may be missing agree when both are missing or both are there and agree. -/
def AgreeOr (left right : Option DraftEntries) : Prop :=
  Agree (documentOr .obj left) (documentOr .obj right)

/-- Variants that agree up to the order of entries. -/
def Variant.Agree : Variant → Variant → Prop
  | .human, .human | .system, .system => True
  | .ai invalidToolCalls toolCalls, .ai others otherCalls =>
    AgreeOr invalidToolCalls others ∧ AgreeOr toolCalls otherCalls
  | .tool toolCallId toolName, .tool otherId otherName =>
    toolCallId = otherId ∧ toolName = otherName
  | .function functionCall, .function other => AgreeOr functionCall other
  | _, _ => False

/-- Drafts that agree up to the order of the entries in their free-form parts. -/
structure Agrees (left right : Draft) : Prop where
  content : left.content = right.content
  id : left.id = right.id
  name : left.name = right.name
  isExample : left.isExample = right.isExample
  additional : Agree (.obj left.additional) (.obj right.additional)
  responseMetadata : Agree (.obj left.responseMetadata) (.obj right.responseMetadata)
  variant : left.variant.Agree right.variant

theorem nullable_mapping {entries : Option DraftEntries}
    (once : KeysOnce (documentOr .obj entries)) :
    nullable mapping (documentOr .obj entries).toValue =
      .valid (entries.map Json.toMapping) := by
  cases entries with
  | none => rfl
  | some entries =>
    have valid := mapping_valid once.1
    rw [Json.toValue_obj once.1, Value.ofMapping] at valid
    rw [documentOr, Json.toValue_obj once.1, Value.ofMapping, nullable, valid]
    · rfl
    · intro same
      cases same

theorem nullable_text (value : Option String) :
    nullable text (documentOr .str value).toValue = .valid value := by
  cases value <;> rfl

theorem agreeOr_of_agree {document : Json} {entries : Option DraftEntries}
    (agree : Agree document (documentOr .obj entries)) :
    ∃ others, document = documentOr .obj others ∧ AgreeOr others entries := by
  cases entries with
  | none => exact ⟨none, agree.eq_of_leaf trivial, .refl _⟩
  | some entries =>
    obtain ⟨others, rfl, _⟩ := Agree.obj agree
    exact ⟨some others, rfl, agree⟩

theorem agree_text {document : Json} {value : Option String}
    (agree : Agree document (documentOr .str value)) : document = documentOr .str value := by
  cases value <;> exact agree.eq_of_leaf trivial

theorem agree_texts {others : List Json} {items : List String}
    (each : List.Forall₂ Agree others (items.map .str)) : others = items.map .str := by
  induction items generalizing others with
  | nil =>
    cases each
    rfl
  | cons item rest ih =>
    rw [List.map_cons] at each
    cases each with
    | cons first later => rw [first.eq_of_leaf trivial, ih later, List.map_cons]

theorem agree_content {document : Json} {content : Content}
    (agree : Agree document (contentDocument content)) : document = contentDocument content := by
  cases content with
  | text content => exact agree.eq_of_leaf trivial
  | texts items =>
    obtain ⟨others, rfl, each⟩ := Agree.arr agree
    exact congrArg Json.arr (agree_texts each)

/-- An entry whose value, with each key once, is found under its name. -/
structure FoundIn (given : List (Value × Value)) (entry : String × Json) : Prop where
  once : KeysOnce entry.2
  value : Value.lookup? given entry.1 = some entry.2.toValue

section Found

variable {given : List (Value × Value)}

/-- A variant is recognised by its tag and read from its entries. -/
theorem load_variant {variant : Variant}
    (tag : Value.lookup? given "type" = some (.str variant.variant.tag))
    (found : ∀ entry ∈ variant.entries, FoundIn given entry) :
    ∃ loadVariant, variant? variant.variant.tag = some loadVariant ∧
      loadVariant given = .valid variant.variant := by
  cases variant with
  | human =>
    change Value.lookup? _ _ = some (.str "human") at tag
    refine ⟨loadHuman, rfl, ?_⟩
    rw [loadHuman, tagField_valid tag]
    rfl
  | system =>
    change Value.lookup? _ _ = some (.str "system") at tag
    refine ⟨loadSystem, rfl, ?_⟩
    rw [loadSystem, tagField_valid tag]
    rfl
  | ai invalidToolCalls toolCalls =>
    change Value.lookup? _ _ = some (.str "ai") at tag
    have invalid := found _ List.mem_cons_self
    have calls := found _ (List.mem_cons_of_mem _ List.mem_cons_self)
    refine ⟨loadAi, rfl, ?_⟩
    rw [loadAi, tagField_valid tag,
      optionalNullable_valid invalid.value (nullable_mapping invalid.once),
      optionalNullable_valid calls.value (nullable_mapping calls.once)]
    rfl
  | tool toolCallId toolName =>
    change Value.lookup? _ _ = some (.str "tool") at tag
    have id := found _ List.mem_cons_self
    have name := found _ (List.mem_cons_of_mem _ List.mem_cons_self)
    refine ⟨loadTool, rfl, ?_⟩
    rw [loadTool, tagField_valid tag, optionalNullable_valid id.value (nullable_text _),
      optionalNullable_valid name.value (nullable_text _)]
    rfl
  | function functionCall =>
    change Value.lookup? _ _ = some (.str "function") at tag
    have call := found _ List.mem_cons_self
    refine ⟨loadFunction, rfl, ?_⟩
    rw [loadFunction, tagField_valid tag,
      optionalNullable_valid call.value (nullable_mapping call.once)]
    rfl

/-- A mapping in which the entries of a draft are found is loaded as the message that the draft
is. -/
theorem load_found {draft : Draft} (found : ∀ entry ∈ draft.entries, FoundIn given entry)
    (source : Source) : Message.load source (.mapping given) = .valid draft.message := by
  have content := found ("content", contentDocument draft.content) (by simp [entries])
  have id := found ("id", .str draft.id) (by simp [entries])
  have name := found ("name", documentOr .str draft.name) (by simp [entries])
  have isExample := found ("example", .bool draft.isExample) (by simp [entries])
  have additional := found ("additional_kwargs", .obj draft.additional) (by simp [entries])
  have metadata := found ("response_metadata", .obj draft.responseMetadata) (by simp [entries])
  have tag := found ("type", .str draft.variant.variant.tag) (by simp [entries])
  obtain ⟨loadVariant, byTag, loaded⟩ := load_variant tag.value
    fun entry member => found entry (List.mem_append_right _ member)
  have fields : loadFields loadVariant given = .valid draft.message := by
    rw [loadFields, required_valid content.value (load_content _),
      required_valid id.value (show text (Json.str draft.id).toValue = .valid draft.id from rfl),
      optionalNullable_valid name.value (nullable_text _),
      optional_valid isExample.value
        (show flag (Json.bool draft.isExample).toValue = .valid draft.isExample from rfl),
      optional_valid additional.value (mapping_valid additional.once.1),
      optional_valid metadata.value (mapping_valid metadata.once.1), loaded]
    rfl
  apply tagged_valid tag.value _ fields
  rw [byTag]
  rfl

end Found

/-- The object of a draft is loaded as the message that the draft is. -/
theorem load_document {draft : Draft} (once : KeysOnce draft.document) (source : Source) :
    Message.load source draft.document.toValue = .valid draft.message := by
  rw [document, Json.toValue_obj once.1]
  apply load_found
  intro entry member
  exact ⟨Json.entriesKeysOnce_iff.mp once.2 entry member,
    Json.lookup?_valueEntries once.1 member⟩

section Agreeing

variable {draft : Draft} {others : DraftEntries} (once : KeysOnce (.obj others))
  (perm : (Json.orderedEntries others).Perm (Json.orderedEntries draft.entries))
include once perm

theorem found_entry {key : String} {item : Json} (member : (key, item) ∈ draft.entries) :
    ∃ other, Agree other item ∧ FoundIn (valueEntries others) (key, other) := by
  obtain ⟨other, there, agree⟩ := Agree.entry perm member
  exact ⟨other, agree, Json.entriesKeysOnce_iff.mp once.2 _ there,
    Json.lookup?_valueEntries once.1 there⟩

theorem found_variant : ∃ variant : Variant, variant.Agree draft.variant ∧
    variant.variant.tag = draft.variant.variant.tag ∧
      ∀ entry ∈ variant.entries, FoundIn (valueEntries others) entry := by
  have inVariant {key : String} {item : Json} (here : (key, item) ∈ draft.variant.entries) :
      ∃ other, Agree other item ∧ FoundIn (valueEntries others) (key, other) :=
    found_entry once perm (List.mem_append_right _ here)
  cases kind : draft.variant with
  | human => exact ⟨.human, trivial, rfl, by simp [Variant.entries]⟩
  | system => exact ⟨.system, trivial, rfl, by simp [Variant.entries]⟩
  | ai invalidToolCalls toolCalls =>
    rw [kind] at inVariant
    obtain ⟨_, agree, foundInvalid⟩ := inVariant List.mem_cons_self
    obtain ⟨invalid, rfl, agreeInvalid⟩ := agreeOr_of_agree agree
    obtain ⟨_, agree, foundCalls⟩ := inVariant (List.mem_cons_of_mem _ List.mem_cons_self)
    obtain ⟨calls, rfl, agreeCalls⟩ := agreeOr_of_agree agree
    refine ⟨.ai invalid calls, ⟨agreeInvalid, agreeCalls⟩, rfl, ?_⟩
    exact List.forall_mem_cons.mpr ⟨foundInvalid, List.forall_mem_singleton.mpr foundCalls⟩
  | tool toolCallId toolName =>
    rw [kind] at inVariant
    obtain ⟨_, agree, foundId⟩ := inVariant List.mem_cons_self
    rw [agree_text agree] at foundId
    obtain ⟨_, agree, foundName⟩ := inVariant (List.mem_cons_of_mem _ List.mem_cons_self)
    rw [agree_text agree] at foundName
    refine ⟨.tool toolCallId toolName, ⟨rfl, rfl⟩, rfl, ?_⟩
    exact List.forall_mem_cons.mpr ⟨foundId, List.forall_mem_singleton.mpr foundName⟩
  | function functionCall =>
    rw [kind] at inVariant
    obtain ⟨_, agree, foundCall⟩ := inVariant List.mem_cons_self
    obtain ⟨call, rfl, agreeCall⟩ := agreeOr_of_agree agree
    exact ⟨.function call, agreeCall, rfl, List.forall_mem_singleton.mpr foundCall⟩

/-- The entries of an agreeing draft are found in what agrees with a draft. -/
theorem found_draft : ∃ other : Draft, Agrees other draft ∧
    ∀ entry ∈ other.entries, FoundIn (valueEntries others) entry := by
  obtain ⟨variant, agreeVariant, tag, foundVariant⟩ := found_variant once perm
  obtain ⟨_, agreeContent, foundContent⟩ := found_entry once perm
    (show ("content", contentDocument draft.content) ∈ _ by simp [entries])
  obtain ⟨_, agreeId, foundId⟩ := found_entry once perm
    (show ("id", .str draft.id) ∈ _ by simp [entries])
  obtain ⟨_, agreeName, foundName⟩ := found_entry once perm
    (show ("name", documentOr .str draft.name) ∈ _ by simp [entries])
  obtain ⟨_, agreeExample, foundExample⟩ := found_entry once perm
    (show ("example", .bool draft.isExample) ∈ _ by simp [entries])
  obtain ⟨_, agreeAdditional, foundAdditional⟩ := found_entry once perm
    (show ("additional_kwargs", .obj draft.additional) ∈ _ by simp [entries])
  obtain ⟨_, agreeMetadata, foundMetadata⟩ := found_entry once perm
    (show ("response_metadata", .obj draft.responseMetadata) ∈ _ by simp [entries])
  obtain ⟨_, agreeTag, foundTag⟩ := found_entry once perm
    (show ("type", .str draft.variant.variant.tag) ∈ _ by simp [entries])
  rw [agree_content agreeContent] at foundContent
  rw [agreeId.eq_of_leaf trivial] at foundId
  rw [agree_text agreeName] at foundName
  rw [agreeExample.eq_of_leaf trivial] at foundExample
  rw [agreeTag.eq_of_leaf trivial, ← tag] at foundTag
  obtain ⟨additional, rfl, _⟩ := Agree.obj agreeAdditional
  obtain ⟨metadata, rfl, _⟩ := Agree.obj agreeMetadata
  refine ⟨{ draft with additional, responseMetadata := metadata, variant },
    ⟨rfl, rfl, rfl, rfl, agreeAdditional, agreeMetadata, agreeVariant⟩, ?_⟩
  simp only [entries, List.forall_mem_append, List.forall_mem_cons]
  exact ⟨⟨foundContent, foundId, foundName, foundExample, foundAdditional, foundMetadata,
    foundTag, by simp⟩, foundVariant⟩

end Agreeing

/-- What agrees with the object of a draft is loaded as a message that agrees with the draft. -/
theorem load_agreeing {draft : Draft} {document : Json} (once : KeysOnce draft.document)
    (agree : Agree document draft.document) (source : Source) :
    ∃ other, Agrees other draft ∧
      Message.load source document.toValue = .valid other.message := by
  have keys : KeysOnce document := agree.keysOnce.mpr once
  obtain ⟨others, rfl, perm⟩ := Agree.obj agree
  obtain ⟨other, agrees, found⟩ := found_draft keys perm
  refine ⟨other, agrees, ?_⟩
  rw [Json.toValue_obj keys.1]
  exact load_found found source

theorem itemsFrom_documents {drafts : List Draft} (once : ∀ draft ∈ drafts, KeysOnce draft.document)
    (position : Int) :
    itemsFrom (Message.load .document) position (Json.toValues (drafts.map document)) =
      .valid (drafts.map message) := by
  apply itemsFrom_toValues
  intro draft member
  exact load_document (once draft member) .document

/-- A text that is read as an array of such objects is loaded as such messages, in order. -/
theorem loadBatch_agreeing {text : String} {documents : List Json} {drafts : List Draft}
    (read : Json.read? readDepth text = some (.arr documents))
    (once : ∀ draft ∈ drafts, KeysOnce draft.document)
    (each : List.Forall₂ (fun document draft => Agree document draft.document)
      documents drafts) :
    ∃ others, List.Forall₂ Agrees others drafts ∧
      loadBatch (.str text) = .valid (others.map message) := by
  have loaded (position : Int) : ∃ others, List.Forall₂ Agrees others drafts ∧
      itemsFrom (Message.load .document) position (Json.toValues documents) =
        .valid (others.map message) := by
    clear read
    induction each generalizing position with
    | nil => exact ⟨[], .nil, rfl⟩
    | cons first _ ih =>
      obtain ⟨other, agrees, valid⟩ :=
        load_agreeing (once _ List.mem_cons_self) first .document
      obtain ⟨others, agree, later⟩ :=
        ih (fun draft member => once draft (List.mem_cons_of_mem _ member)) (position + 1)
      refine ⟨other :: others, .cons agrees agree, ?_⟩
      rw [Json.toValues, itemsFrom, valid, later]
      rfl
  obtain ⟨others, agree, valid⟩ := loaded 0
  refine ⟨others, agree, ?_⟩
  rw [loadBatch, Validation.document, read]
  exact valid

end Draft

end Message

end Transcript
