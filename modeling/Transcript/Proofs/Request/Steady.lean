import Transcript.Proofs.Validation.Steady
import Transcript.Request.Load

namespace Transcript

open Validation

variable {room : Nat} {given : List (Value × Value)}

section Parts

variable (ample : 1 ≤ room) (enough : room ≤ Json.Stored.depthLimit)
  (within : Within room given)
include ample enough within

theorem ToolUse.gathered {use : ToolUse} (valid : loadFields given = .valid use) :
    Gathered room loadFields use use.fields := by
  obtain ⟨_, complete, first, ofComplete, rfl⟩ := Checked.valid_of_seq valid
  obtain ⟨_, input, second, ofInput, rfl⟩ := Checked.valid_of_seq first
  obtain ⟨_, raw, third, ofRaw, rfl⟩ := Checked.valid_of_seq second
  obtain ⟨_, name, fourth, ofName, rfl⟩ := Checked.valid_of_seq third
  obtain ⟨id, ofId, rfl⟩ := Checked.valid_of_map fourth
  exact (((((gathered_text ample within ofId).map ToolUse.mk).seq
    (gathered_text ample within ofName)).seq (gathered_textOr ample within ofRaw)).seq
    (gathered_anything ample within enough ofInput)).seq (gathered_flag ample within ofComplete)

/-- The fields of a part under its tag are gathered by the check that this tag names. -/
theorem Part.gathered {tag : String} {build : Entries → Checked Part} {part : Part}
    (byTag : variant? tag = some build) (valid : build given = .valid part) :
    Gathered room build part (("type", .text part.tag) :: part.fields) ∧ part.tag = tag := by
  unfold variant? at byTag
  split at byTag <;> cases byTag
  · obtain ⟨_, content, first, ofContent, rfl⟩ := Checked.valid_of_seq valid
    obtain ⟨_, _, rfl⟩ := Checked.valid_of_map first
    exact ⟨((gathered_tag _ ample).map _).seq (gathered_text ample within ofContent), rfl⟩
  · obtain ⟨_, signature, first, ofSignature, rfl⟩ := Checked.valid_of_seq valid
    obtain ⟨_, content, second, ofContent, rfl⟩ := Checked.valid_of_seq first
    obtain ⟨_, _, rfl⟩ := Checked.valid_of_map second
    exact ⟨(((gathered_tag _ ample).map _).seq (gathered_text ample within ofContent)).seq
      (gathered_nullableText ample within ofSignature), rfl⟩
  · obtain ⟨_, data, first, ofData, rfl⟩ := Checked.valid_of_seq valid
    obtain ⟨_, _, rfl⟩ := Checked.valid_of_map first
    exact ⟨((gathered_tag _ ample).map _).seq (gathered_text ample within ofData), rfl⟩
  · obtain ⟨_, height, first, ofHeight, rfl⟩ := Checked.valid_of_seq valid
    obtain ⟨_, width, second, ofWidth, rfl⟩ := Checked.valid_of_seq first
    obtain ⟨_, source, third, ofSource, rfl⟩ := Checked.valid_of_seq second
    obtain ⟨_, _, rfl⟩ := Checked.valid_of_map third
    exact ⟨((((gathered_tag _ ample).map _).seq (gathered_text ample within ofSource)).seq
      (gathered_integer ample within ofWidth)).seq (gathered_integer ample within ofHeight), rfl⟩
  · obtain ⟨_, use, first, ofUse, rfl⟩ := Checked.valid_of_seq valid
    obtain ⟨_, _, rfl⟩ := Checked.valid_of_map first
    exact ⟨((gathered_tag _ ample).map _).seq (ToolUse.gathered ample enough within ofUse), rfl⟩
  · obtain ⟨_, output, first, ofOutput, rfl⟩ := Checked.valid_of_seq valid
    obtain ⟨_, content, second, ofContent, rfl⟩ := Checked.valid_of_seq first
    obtain ⟨_, isError, third, ofError, rfl⟩ := Checked.valid_of_seq second
    obtain ⟨_, toolName, fourth, ofName, rfl⟩ := Checked.valid_of_seq third
    obtain ⟨_, toolUseId, fifth, ofId, rfl⟩ := Checked.valid_of_seq fourth
    obtain ⟨_, _, rfl⟩ := Checked.valid_of_map fifth
    exact ⟨((((((gathered_tag _ ample).map _).seq (gathered_text ample within ofId)).seq
      (gathered_text ample within ofName)).seq (gathered_flag ample within ofError)).seq
      (gathered_textOr ample within ofContent)).seq
      (gathered_anything ample within enough ofOutput), rfl⟩

end Parts

theorem ToolUse.fields_once (use : ToolUse) : (use.fields.map Prod.fst).Nodup := by
  simp [ToolUse.fields]

theorem Part.fields_once (part : Part) :
    ((("type", .text part.tag) :: part.fields).map Prod.fst).Nodup := by
  cases part <;> simp [Part.fields, ToolUse.fields]

section Rooms

variable (ample : 1 ≤ room) (enough : room ≤ Json.Stored.depthLimit)
include ample enough

theorem ToolUse.steady : Steady (room + 1) ToolUse.load ToolUse.shape :=
  steady_record ToolUse.fields_once fun _ _ within valid =>
    ToolUse.gathered ample enough within valid

/-- A part whose tag is known beforehand. -/
theorem Part.steady_variant {tag : String} {build : Entries → Checked Part}
    (byTag : variant? tag = some build) : Steady (room + 1) (record build) Part.shape :=
  steady_record Part.fields_once fun _ _ within valid =>
    (Part.gathered ample enough within byTag valid).1

theorem Part.steady (source : Source) : Steady (room + 1) (Part.load source) Part.shape := by
  refine steady_tagged Part.fields_once fun tag build given part byTag within valid => ?_
  obtain ⟨gathered, rfl⟩ := Part.gathered ample enough within byTag valid
  exact ⟨gathered, List.mem_cons_self⟩

end Rooms

theorem TurnContent.steady (ample : 1 ≤ room) (enough : room + 2 ≤ Json.Stored.depthLimit)
    (source : Source) : Steady (room + 2) (TurnContent.load source) TurnContent.shape := by
  intro input content read valid
  unfold TurnContent.load either at valid
  split at valid
  · cases valid
    exact ⟨Shape.isReadable_leaf trivial trivial (Nat.le_add_left 1 _), rfl⟩
  · rename_i listed
    cases valid
    have parts := steady_listOf (Part.steady ample (Nat.le_of_add_right_le enough) source)
    obtain ⟨readable, again⟩ := parts read listed
    refine ⟨readable.choice enough, ?_⟩
    simp only [TurnContent.load, either, TurnContent.shape, Shape.toValue]
    change listOf _ (.list _) = _ at again
    rw [again]
    rfl
  · cases valid

theorem Role.ofName?_name (role : Role) : ofName? role.name = some role := by
  cases role <;> rfl

theorem Intent.ofName?_name (intent : Intent) : ofName? intent.name = some intent := by
  cases intent <;> rfl

theorem Mode.ofName?_name (mode : Mode) : ofName? mode.name = some mode := by
  cases mode <;> rfl

theorem Turn.steady (ample : 1 ≤ room) (enough : room + 2 ≤ Json.Stored.depthLimit)
    (source : Source) : Steady (room + 3) (Turn.load source) Turn.shape := by
  have least : 1 ≤ room + 2 := Nat.le_add_left 1 _
  have noParts : Keeps (room + 2) (TurnContent.load source) TurnContent.shape (.parts []) :=
    ⟨(Shape.isReadable_list (List.forall_mem_nil _)).choice enough, rfl⟩
  refine steady_record (by simp) fun given turn within valid => ?_
  obtain ⟨_, cache, first, ofCache, rfl⟩ := Checked.valid_of_seq valid
  obtain ⟨_, content, second, ofContent, rfl⟩ := Checked.valid_of_seq first
  obtain ⟨role, ofRole, rfl⟩ := Checked.valid_of_map second
  exact (((gathered_required (steady_named Role.ofName?_name least) within ofRole).map
    Turn.mk).seq (gathered_optional (TurnContent.steady ample enough source) noParts within
      ofContent)).seq (gathered_flag least within ofCache)

theorem Request.steady (ample : 1 ≤ room) (enough : room + 4 ≤ Json.Stored.depthLimit) :
    Steady (room + 5) (Request.load .document) Request.shape := by
  have least : 1 ≤ room + 4 := Nat.le_add_left 1 _
  have noTurns : Keeps (room + 4) (listOf (Turn.load .document))
      (fun turns => .list (turns.map Turn.shape)) [] := keeps_items nofun
  refine steady_record (by simp) fun given request within valid => ?_
  obtain ⟨_, temperature, first, ofTemperature, rfl⟩ := Checked.valid_of_seq valid
  obtain ⟨_, stop, second, ofStop, rfl⟩ := Checked.valid_of_seq first
  obtain ⟨_, turns, third, ofTurns, rfl⟩ := Checked.valid_of_seq second
  obtain ⟨_, mode, fourth, ofMode, rfl⟩ := Checked.valid_of_seq third
  obtain ⟨_, intent, fifth, ofIntent, rfl⟩ := Checked.valid_of_seq fourth
  obtain ⟨_, promptId, sixth, ofPrompt, rfl⟩ := Checked.valid_of_seq fifth
  obtain ⟨threadId, ofThread, rfl⟩ := Checked.valid_of_map sixth
  have texts : Steady (room + 4) (listOf text) .texts := fun _ items _ _ => keeps_texts items
  have intents := steady_named Intent.ofName?_name least
  have modes := steady_named Mode.ofName?_name least
  have turnsKept := steady_listOf
    (Turn.steady ample (Nat.le_of_succ_le (Nat.le_of_succ_le enough)) .document)
  exact (((((((gathered_nullableText least within ofThread).map Request.mk).seq
    (gathered_nullableText least within ofPrompt)).seq
    (gathered_nullable intents (fun _ => nofun) least within ofIntent)).seq
    (gathered_nullable modes (fun _ => nofun) least within ofMode)).seq
    (gathered_optional turnsKept noTurns within ofTurns)).seq
    (gathered_optional texts (keeps_texts []) within ofStop)).seq
    (gathered_nullable (steady_number least) (fun _ => nofun) least within ofTemperature)

end Transcript
