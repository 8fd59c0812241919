import Transcript.Message
import Transcript.Proofs.Json.FreeForm

namespace Transcript.Message

/-- Entries of an object, as a free-form part of a message holds them. -/
abbrev DraftEntries := List (String × Json)

/-- What the variants of a draft add to the common fields. -/
inductive Draft.Variant where
  | human
  | ai (invalidToolCalls toolCalls : Option DraftEntries)
  | system
  | tool (toolCallId toolName : Option String)
  | function (functionCall : Option DraftEntries)

/-- A message whose free-form parts are documents. -/
structure Draft where
  content : Content
  id : String
  name : Option String
  isExample : Bool
  additional : DraftEntries
  responseMetadata : DraftEntries
  variant : Draft.Variant

/-- A part that may be missing, as a document. -/
def documentOr {α : Type} (document : α → Json) : Option α → Json
  | none => .null
  | some value => document value

namespace Draft

def Variant.variant : Variant → Message.Variant
  | .human => .human
  | .ai invalidToolCalls toolCalls =>
    .ai (invalidToolCalls.map Json.toMapping) (toolCalls.map Json.toMapping)
  | .system => .system
  | .tool toolCallId toolName => .tool toolCallId toolName
  | .function functionCall => .function (functionCall.map Json.toMapping)

def Variant.entries : Variant → DraftEntries
  | .human | .system => []
  | .ai invalidToolCalls toolCalls =>
    [("invalid_tool_calls", documentOr .obj invalidToolCalls),
     ("tool_calls", documentOr .obj toolCalls)]
  | .tool toolCallId toolName =>
    [("tool_call_id", documentOr .str toolCallId), ("tool_name", documentOr .str toolName)]
  | .function functionCall => [("function_call", documentOr .obj functionCall)]

def contentDocument : Content → Json
  | .text content => .str content
  | .texts items => .arr (items.map .str)

def message (draft : Draft) : Message where
  content := draft.content
  id := draft.id
  name := draft.name
  isExample := draft.isExample
  additional := Json.toMapping draft.additional
  responseMetadata := Json.toMapping draft.responseMetadata
  variant := draft.variant.variant

def entries (draft : Draft) : DraftEntries :=
  [("content", contentDocument draft.content), ("id", .str draft.id),
   ("name", documentOr .str draft.name), ("example", .bool draft.isExample),
   ("additional_kwargs", .obj draft.additional),
   ("response_metadata", .obj draft.responseMetadata),
   ("type", .str draft.variant.variant.tag)] ++ draft.variant.entries

def document (draft : Draft) : Json := .obj draft.entries

theorem names_nodup (draft : Draft) : (draft.entries.map Prod.fst).Nodup := by
  unfold entries
  cases draft.variant <;> simp [Variant.entries]

open Json (KeysOnce EntriesKeysOnce entriesDepth)

/-- A shape that holds what it may and comes to a document. -/
structure Settles (room : Nat) (shape : Shape) (document : Json) : Prop where
  fits : shape.fits = true
  written : shape.toJsonWithin room = .ok (Shape.finite document)

variable {room : Nat}

theorem settles_plain (document : Json) : Settles room (.plain document) document := ⟨rfl, rfl⟩

theorem fits_mapping (mapping : Mapping) : (Shape.ofMapping mapping).fits = true := by
  simp [Shape.ofMapping, Shape.fits, Value.text?]

theorem settles_mapping {entries : DraftEntries} (once : KeysOnce (.obj entries))
    (deep : (Json.obj entries).depth ≤ room) :
    Settles room (.ofMapping (Json.toMapping entries)) (.obj entries) where
  fits := fits_mapping _
  written := by
    have within : entriesDepth entries ≤ room := by
      rw [Json.depth] at deep
      omega
    rw [Shape.ofMapping, Shape.toJsonWithin,
      Json.Stored.encodeEntries_toMapping entries room once.2 within]
    rfl

theorem settles_text (text : Option String) :
    Settles room (.optional .text text) (documentOr .str text) := by
  cases text with
  | none => exact settles_plain .null
  | some text => exact settles_plain (.str text)

theorem settles_optional {entries : Option DraftEntries} (once : KeysOnce (documentOr .obj entries))
    (deep : (documentOr Json.obj entries).depth ≤ room) :
    Settles room (.optional .ofMapping (entries.map Json.toMapping)) (documentOr .obj entries) := by
  cases entries with
  | none => exact settles_plain .null
  | some entries => exact settles_mapping once deep

/-- The fields of a record come to the entries of an object, one by one. -/
def FieldsSettle (room : Nat) : List (String × Shape) → DraftEntries → Prop :=
  List.Forall₂ fun field entry => field.1 = entry.1 ∧ Settles room field.2 entry.2

theorem settles_record {fields : List (String × Shape)} {entries : DraftEntries}
    (each : FieldsSettle room fields entries) : Settles room (.record fields) (.obj entries) := by
  have together : Shape.fieldsFit fields = true ∧
      Shape.fieldsWithin room fields = .ok (Shape.finiteEntries entries) := by
    induction each with
    | nil => exact ⟨rfl, rfl⟩
    | cons first _ ih =>
      obtain ⟨name, fits, written⟩ := first
      refine ⟨?_, ?_⟩
      · rw [Shape.fieldsFit, fits, ih.1]
        rfl
      · rw [Shape.fieldsWithin, written, ih.2, name]
        rfl
  refine ⟨together.1, ?_⟩
  rw [Shape.toJsonWithin, together.2]
  rfl

theorem settles_list {shapes : List Shape} {documents : List Json}
    (each : List.Forall₂ (Settles room) shapes documents) :
    Settles room (.list shapes) (.arr documents) := by
  have together : Shape.itemsFit shapes = true ∧
      Shape.itemsWithin room shapes = .ok (Shape.finiteItems documents) := by
    induction each with
    | nil => exact ⟨rfl, rfl⟩
    | cons first _ ih =>
      obtain ⟨fits, written⟩ := first
      constructor
      · rw [Shape.itemsFit, fits, ih.1]
        rfl
      · rw [Shape.itemsWithin, written, ih.2]
        rfl
  refine ⟨together.1, ?_⟩
  rw [Shape.toJsonWithin, together.2]
  rfl

/-- A part of one of several forms is settled when its document has each key once and is not
too deep. -/
theorem Settles.choice {form : Shape} {document : Json} (settles : Settles room form document)
    (once : KeysOnce document) (deep : document.depth ≤ room) :
    (Shape.choice form).toJsonWithin room = .ok (Shape.finite document) := by
  have collapsed := Json.collapsed_of_keysOnce _ (Json.keysOnce_finite document once)
  have within : (Shape.finite document).depth ≤ room := by rwa [Json.depth_finite]
  rw [Shape.toJsonWithin, settles.fits, settles.written]
  simp only [collapsed, within, if_true]

/-- A draft that can be written: each key stands once, and nothing is too deep. -/
structure IsWritable (draft : Draft) : Prop where
  once : KeysOnce draft.document
  deep : draft.document.depth ≤ Json.Stored.depthLimit

theorem settles_message (draft : Draft) (writable : draft.IsWritable) :
    Settles Json.Stored.depthLimit draft.message.shape draft.document := by
  obtain ⟨⟨_, once⟩, deep⟩ := writable
  have part {key : String} {item : Json} (member : (key, item) ∈ draft.entries) :
      KeysOnce item ∧ item.depth ≤ Json.Stored.depthLimit := by
    have inside := Json.depth_le_of_member member
    rw [document, Json.depth] at deep
    exact ⟨Json.entriesKeysOnce_iff.mp once _ member, by omega⟩
  have additional := part (show ("additional_kwargs", .obj draft.additional) ∈ _ by simp [entries])
  have metadata :=
    part (show ("response_metadata", .obj draft.responseMetadata) ∈ _ by simp [entries])
  have variant : FieldsSettle Json.Stored.depthLimit draft.message.variant.fields
      draft.variant.entries := by
    have inVariant {key : String} {item : Json} (member : (key, item) ∈ draft.variant.entries) :
        KeysOnce item ∧ item.depth ≤ Json.Stored.depthLimit :=
      part (List.mem_append_right _ member)
    rw [message]
    revert inVariant
    cases draft.variant with
    | human | system => exact fun _ => .nil
    | ai invalidToolCalls toolCalls =>
      intro inVariant
      have first := inVariant (List.mem_cons_self)
      have second := inVariant (List.mem_cons_of_mem _ List.mem_cons_self)
      exact .cons ⟨rfl, settles_optional first.1 first.2⟩
        (.cons ⟨rfl, settles_optional second.1 second.2⟩ .nil)
    | tool toolCallId toolName =>
      exact fun _ => .cons ⟨rfl, settles_text _⟩ (.cons ⟨rfl, settles_text _⟩ .nil)
    | function functionCall =>
      intro inVariant
      have first := inVariant (List.mem_cons_self)
      exact .cons ⟨rfl, settles_optional first.1 first.2⟩ .nil
  have content : Settles Json.Stored.depthLimit draft.content.shape
      (contentDocument draft.content) := by
    cases draft.content <;> exact settles_plain _
  apply settles_record
  exact .cons ⟨rfl, content⟩ <| .cons ⟨rfl, settles_plain _⟩ <| .cons ⟨rfl, settles_text _⟩ <|
    .cons ⟨rfl, settles_plain _⟩ <| .cons ⟨rfl, settles_mapping additional.1 additional.2⟩ <|
    .cons ⟨rfl, settles_mapping metadata.1 metadata.2⟩ <| .cons ⟨rfl, settles_plain _⟩ variant

/-- A batch of drafts is written as the array of their objects. -/
theorem itemsWithin_drafts {drafts : List Draft}
    (writable : ∀ draft ∈ drafts, draft.IsWritable) :
    Shape.itemsWithin Json.Stored.depthLimit
        (((drafts.map message).map Message.shape).map .choice) =
      .ok (drafts.map fun draft => Shape.finite draft.document) := by
  induction drafts with
  | nil => rfl
  | cons draft rest ih =>
    have first := writable draft List.mem_cons_self
    have written := (settles_message draft first).choice first.once first.deep
    have others := ih fun draft member => writable draft (List.mem_cons_of_mem _ member)
    rw [List.map_cons, List.map_cons, List.map_cons, Shape.itemsWithin, written, others]
    rfl

end Draft

end Transcript.Message
