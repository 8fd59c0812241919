import Transcript.Event.Load
import Transcript.Proofs.Request.Steady

/-! Events and what they carry are steady, each kind under its own fields. So whatever is accepted
from a text, of any class of requests, parts or events, comes again from what it is written as. -/

namespace Transcript

open Validation

variable {room : Nat} {given : List (Value × Value)}

theorem TokenUsage.steady (ample : 1 ≤ room) :
    Steady (room + 1) TokenUsage.load TokenUsage.shape := by
  refine steady_record (by simp) fun given usage within valid => ?_
  obtain ⟨_, cacheRead, first, ofRead, rfl⟩ := Checked.valid_of_seq valid
  obtain ⟨_, cacheCreation, second, ofCreation, rfl⟩ := Checked.valid_of_seq first
  obtain ⟨_, output, third, ofOutput, rfl⟩ := Checked.valid_of_seq second
  obtain ⟨input, ofInput, rfl⟩ := Checked.valid_of_map third
  exact ((((gathered_integer ample within ofInput).map TokenUsage.mk).seq
    (gathered_integer ample within ofOutput)).seq (gathered_integer ample within ofCreation)).seq
    (gathered_integer ample within ofRead)

theorem StopReason.ofName?_name (reason : StopReason) : ofName? reason.name = some reason := by
  cases reason <;> rfl

theorem Event.fields_once (event : Event) :
    ((("kind", .text event.kind) :: event.fields).map Prod.fst).Nodup := by
  cases event <;> simp [fields]

theorem Event.steady (ample : 1 ≤ room) (enough : room + 1 ≤ Json.Stored.depthLimit)
    {kind : String} {load : Value → Checked Event} (byKind : ofKind? kind = some load) :
    Steady (room + 2) load Event.shape := by
  have least : 1 ≤ room + 1 := Nat.le_add_left 1 _
  have empty : (Json.obj []).IsRead (room + 1) := Json.isRead_obj .nil nofun
  have noDetail : Keeps (room + 1) mapping .ofMapping [] :=
    ⟨Shape.isReadable_mapping empty enough, rfl⟩
  unfold ofKind? at byKind
  split at byKind <;> cases byKind <;>
    refine steady_record fields_once fun given event within valid => ?_
  · obtain ⟨_, detail, first, ofDetail, rfl⟩ := Checked.valid_of_seq valid
    obtain ⟨_, status, second, ofStatus, rfl⟩ := Checked.valid_of_seq first
    obtain ⟨_, _, rfl⟩ := Checked.valid_of_map second
    exact (((gathered_tag _ least).map _).seq (gathered_text least within ofStatus)).seq
      (gathered_optional (steady_mapping enough) noDetail within ofDetail)
  · obtain ⟨_, messageId, first, ofId, rfl⟩ := Checked.valid_of_seq valid
    obtain ⟨_, _, rfl⟩ := Checked.valid_of_map first
    exact ((gathered_tag _ least).map _).seq (gathered_text least within ofId)
  · obtain ⟨_, content, first, ofContent, rfl⟩ := Checked.valid_of_seq valid
    obtain ⟨_, _, rfl⟩ := Checked.valid_of_map first
    exact ((gathered_tag _ least).map _).seq (gathered_text least within ofContent)
  · obtain ⟨_, signature, first, ofSignature, rfl⟩ := Checked.valid_of_seq valid
    obtain ⟨_, content, second, ofContent, rfl⟩ := Checked.valid_of_seq first
    obtain ⟨_, _, rfl⟩ := Checked.valid_of_map second
    exact (((gathered_tag _ least).map _).seq (gathered_text least within ofContent)).seq
      (gathered_nullableText least within ofSignature)
  · obtain ⟨_, reason, first, ofReason, rfl⟩ := Checked.valid_of_seq valid
    obtain ⟨_, _, rfl⟩ := Checked.valid_of_map first
    have endTurn : Keeps (room + 1) (named StopReason.ofName?)
        (fun reason => .text reason.name) .endTurn :=
      ⟨Shape.isReadable_leaf trivial trivial least, rfl⟩
    exact ((gathered_tag _ least).map _).seq
      (gathered_optional (steady_named StopReason.ofName?_name least) endTurn within ofReason)
  · obtain ⟨_, use, first, ofUse, rfl⟩ := Checked.valid_of_seq valid
    obtain ⟨_, _, rfl⟩ := Checked.valid_of_map first
    exact ((gathered_tag _ least).map _).seq (gathered_required
      (ToolUse.steady ample (Nat.le_of_succ_le enough)) within ofUse)
  · obtain ⟨_, usage, first, ofUsage, rfl⟩ := Checked.valid_of_seq valid
    obtain ⟨_, _, rfl⟩ := Checked.valid_of_map first
    exact ((gathered_tag _ least).map _).seq
      (gathered_required (TokenUsage.steady ample) within ofUsage)

/-- How the texts of each class of requests, parts and events are checked, and how what is
accepted is written. -/
inductive IsClass : {α : Type} → (Value → Checked α) → (α → Shape) → Prop where
  | request : IsClass (Request.load .document) Request.shape
  | turn : IsClass (Turn.load .document) Turn.shape
  | part {tag : String} {build : Part.Entries → Checked Part}
      (byTag : Part.variant? tag = some build) : IsClass (record build) Part.shape
  | anyPart : IsClass (Part.load .document) Part.shape
  | event {kind : String} {load : Value → Checked Event}
      (byKind : Event.ofKind? kind = some load) : IsClass load Event.shape
  | toolUse : IsClass ToolUse.load ToolUse.shape
  | usage : IsClass TokenUsage.load TokenUsage.shape

variable {α : Type} {load : Value → Checked α} {shape : α → Shape}

theorem IsClass.steady (known : IsClass load shape) : Steady (readDepth + 1) load shape := by
  cases known with
  | request => exact Request.steady (by decide) (by decide)
  | turn => exact Turn.steady (by decide) (by decide) .document
  | part byTag => exact Part.steady_variant (by decide) (by decide) byTag
  | anyPart => exact Part.steady (by decide) (by decide) .document
  | event byKind => exact Event.steady (by decide) (by decide) byKind
  | toolUse => exact ToolUse.steady (by decide) (by decide)
  | usage => exact TokenUsage.steady (by decide)

/-- Whatever a class accepts from a text can be written, unless it holds a float that is no
number, and the class accepts the same again from what it is written as. -/
theorem accepted_texts_are_read_again (known : IsClass load shape) {data : Value} {accepted : α}
    (valid : (Validation.document data).andThen load = .valid accepted)
    (numbers : (shape accepted).toValue.HasNumbers) :
    ∃ text, (shape accepted).toText = .ok text ∧
      ∀ again, Hands again text → (Validation.document again).andThen load = .valid accepted :=
  known.steady.again valid numbers

def looseRequest : Json :=
  .obj [("intent", .str "UserPrompt"), ("messages", .arr [.obj [("role", .str "user"),
    ("content", .arr [.obj [("text", .str "hi"), ("type", .str "text")]]), ("cache", .int 1)]])]

def strictRequest : Request :=
  { intent := some .userPrompt, turns := [⟨.user, .parts [.text "hi"], true⟩] }

/-- The flag is written, and with it the same request is read. -/
theorem accepted_texts_are_read_again_strict :
    (Validation.document (.str (Json.render .stored looseRequest))).andThen
      (Request.load .document) = .valid strictRequest ∧
    ∃ text, strictRequest.shape.toText = .ok text ∧ ∀ again, Hands again text →
      (Validation.document again).andThen (Request.load .document) = .valid strictRequest := by
  have short : Json.Leaves Json.IsShort looseRequest := by
    have one : Decimal.isSpellable 1 = true := by decide
    simp [looseRequest, Json.Leaves, Json.ItemLeaves, Json.EntryLeaves, Json.IsShort, one]
  have numbers : Json.Leaves Json.IsNumber looseRequest := by
    simp [looseRequest, Json.Leaves, Json.ItemLeaves, Json.EntryLeaves, Json.IsNumber]
  have spelled := Json.Layout.spells_of_givesBack (Json.givesBack_of_isNumber _ short numbers)
  have valid := (Hands.text _).spelled spelled (by decide) (Request.load .document)
  have finite : strictRequest.shape.toValue.HasNumbers := by
    simp [strictRequest, Request.shape, Turn.shape, TurnContent.shape, Part.shape, Part.fields,
      Shape.toValue, Shape.toValues, Shape.toMapping, Shape.optional, Shape.null, Shape.text,
      Shape.texts, Shape.bool, Json.toValue, Json.toValues, Value.ofMapping, Value.HasNumbers,
      Value.ItemsHaveNumbers, Value.EntriesHaveNumbers]
  exact ⟨valid, accepted_texts_are_read_again .request valid finite⟩

end Transcript
