import Transcript.Proofs.Desk
import Transcript.Proofs.Json.Payload

namespace Transcript

namespace Shape

variable {room bound : Nat}

/-- What is written of a shape, with so much room for free-form values, is no deeper than this. -/
def IsWithin (room bound : Nat) (shape : Shape) : Prop :=
  ∀ document, shape.toJsonWithin room = .ok document → document.depth ≤ bound

theorem itemsDepth_le {items : List Shape} {documents : List Json}
    (each : ∀ item ∈ items, item.IsWithin room bound)
    (written : itemsWithin room items = .ok documents) : Json.itemsDepth documents ≤ bound := by
  induction items generalizing documents with
  | nil =>
    cases written
    exact Nat.zero_le bound
  | cons item rest ih =>
    obtain ⟨here, later⟩ := List.forall_mem_cons.mp each
    obtain ⟨document, documents, first, others, rfl⟩ := ok_of_both written
    exact Nat.max_le.mpr ⟨here document first, ih later others⟩

theorem fieldsDepth_le {fields : List (String × Shape)} {entries : List (String × Json)}
    (each : ∀ field ∈ fields, field.2.IsWithin room bound)
    (written : fieldsWithin room fields = .ok entries) : Json.entriesDepth entries ≤ bound := by
  induction fields generalizing entries with
  | nil =>
    cases written
    exact Nat.zero_le bound
  | cons field rest ih =>
    obtain ⟨here, later⟩ := List.forall_mem_cons.mp each
    obtain ⟨document, documents, first, others, rfl⟩ := ok_of_both written
    exact Nat.max_le.mpr ⟨here document first, ih later others⟩

end Shape

namespace Part

def payloads : Part → List Value
  | .toolUse use => [use.input]
  | .toolResult _ _ _ _ output => [output]
  | .text _ | .thinking .. | .redactedThinking _ | .image .. => []

def sizes : Part → List Int
  | .image _ width height => [width, height]
  | .text _ | .thinking .. | .redactedThinking _ | .toolUse _ | .toolResult .. => []

theorem forall_fields {part : Part} {holds : Shape → Prop}
    (text : ∀ content, holds (.text content)) (null : holds .null)
    (flag : ∀ value, holds (.bool value)) (size : ∀ number ∈ part.sizes, holds (.int number))
    (payload : ∀ value ∈ part.payloads, holds (.free value)) :
    ∀ field ∈ ("type", Shape.text part.tag) :: part.fields, holds field.2 := by
  refine List.forall_mem_cons.mpr ⟨text part.tag, ?_⟩
  cases part with
  | text | redactedThinking =>
    simp only [fields, List.forall_mem_cons]
    exact ⟨text _, List.forall_mem_nil _⟩
  | thinking content signature =>
    have optional : holds (.optional .text signature) := by
      cases signature with
      | none => exact null
      | some signature => exact text signature
    simp only [fields, List.forall_mem_cons]
    exact ⟨text content, optional, List.forall_mem_nil _⟩
  | image source width height =>
    have wide := size width List.mem_cons_self
    have high := size height (List.mem_cons_of_mem _ List.mem_cons_self)
    simp only [fields, List.forall_mem_cons]
    exact ⟨text source, wide, high, List.forall_mem_nil _⟩
  | toolUse use =>
    have input := payload use.input List.mem_cons_self
    simp only [fields, ToolUse.fields, List.forall_mem_cons]
    exact ⟨text _, text _, text _, input, flag _, List.forall_mem_nil _⟩
  | toolResult _ _ _ _ output =>
    have free := payload output List.mem_cons_self
    simp only [fields, List.forall_mem_cons]
    exact ⟨text _, text _, flag _, text _, free, List.forall_mem_nil _⟩

theorem fields_within (part : Part) : ∀ field ∈ ("type", Shape.text part.tag) :: part.fields,
    field.2.IsWithin Json.Stored.depthLimit Json.Stored.depthLimit := by
  have leaf {known : Json} (isLeaf : known.IsLeaf) :
      (Shape.plain known).IsWithin Json.Stored.depthLimit Json.Stored.depthLimit := by
    rintro _ ⟨⟩
    rw [Json.depth_finite, isLeaf.depth_eq]
    decide
  apply forall_fields
  case text => exact fun _ => leaf trivial
  case null => exact leaf trivial
  case flag => exact fun _ => leaf trivial
  case size => exact fun _ _ => leaf trivial
  case payload => exact fun value _ _ written => Json.Stored.depth_le_room value written

theorem depth_le {parts : List Part} {document : Json}
    (written : (Shape.list (parts.map Part.shape)).toJson = .ok document) :
    document.depth ≤ Json.Stored.depthLimit + 2 := by
  obtain ⟨documents, inside, rfl⟩ := ok_of_map written
  refine Nat.succ_le_succ (Shape.itemsDepth_le (fun item member object made => ?_) inside)
  obtain ⟨part, _, rfl⟩ := List.mem_map.mp member
  obtain ⟨entries, fields, rfl⟩ := ok_of_map made
  exact Nat.succ_le_succ (Shape.fieldsDepth_le part.fields_within fields)

theorem payload_ne_tooDeep {parts : List Part} {document : Json}
    (written : (Shape.list (parts.map Part.shape)).toJson = .ok document) :
    Json.Payload.write document.toValue ≠ .error .tooDeep := by
  intro failed
  have deep := Json.Payload.lt_nesting document.toValue (error_of_map failed)
  have nested := Json.nesting_toValue_le document
  have shallow := depth_le written
  simp only [Json.Payload.depthLimit, Json.Stored.depthLimit] at deep shallow
  omega

end Part

/-- A desk after further notices, and after further identifiers were issued. -/
def Desk.after (desk : Desk) (notices : List Notice) (issued : Nat) : Desk :=
  { desk with notices := desk.notices ++ notices, issued := desk.issued + issued }

@[simp] theorem Desk.after_nothing (desk : Desk) : desk.after [] 0 = desk := by
  simp [after]

@[simp] theorem Desk.after_after (desk : Desk) (notices more : List Notice) (issued further : Nat) :
    (desk.after notices issued).after more further =
      desk.after (notices ++ more) (issued + further) := by
  simp [after, Nat.add_assoc]

@[simp] theorem Desk.after_issued (desk : Desk) (notices : List Notice) (issued : Nat) :
    (desk.after notices issued).issued = desk.issued + issued := rfl

/-- The metadata of everything that is recorded under an origin. -/
def Origin.metadata (origin : Origin) : Mapping := completionMetadata origin.request origin.model

/-- What writing a text comes to: the text, or why a payload could not be written or had no stored
form before. -/
inductive Written where
  | text (content : String)
  | unwritable (cause : String)
  | unstorable (cause : String)

namespace Written

def content : Written → String
  | .text content => content
  | .unwritable _ | .unstorable _ => ""

def failed : Written → Bool
  | .text _ => false
  | .unwritable _ | .unstorable _ => true

/-- What is noted while something is written for a site: every failure is counted once. -/
def notices (site : String) : Written → List Notice
  | .text _ => []
  | .unwritable cause => [.unwritable site cause, Tally.notice (.unwritable site)]
  | .unstorable cause => [.unwritableContent cause, Tally.notice (.unwritable site)]

/-- A free-form value as a payload. -/
def ofPayload (value : Value) : Written :=
  match Json.Payload.write value with
  | .ok content => .text content
  | .error fault => .unwritable fault.message

end Written

/-- The content of a turn: its text as it is, or the payload of the stored form of its parts. -/
def TurnContent.written : TurnContent → Written
  | .text content => .text content
  | .parts items =>
    match (Shape.list (items.map Part.shape)).toJson with
    | .ok document => .ofPayload document.toValue
    | .error fault => .unstorable fault.message

namespace Message

open Recording (result result_bind)

theorem result_pure {α : Type} (value : α) (desk : Desk) :
    (pure value : Recording α).result desk = (.ok value, desk) := rfl

/-- A failure to write is noted and counted, and leaves an empty text. -/
theorem result_failed (site : String) (notice : Notice) (desk : Desk) :
    (do
      Recording.note notice
      Recording.tally (.unwritable site)
      return "" : Recording String).result desk =
        (.ok "", desk.after [notice, Tally.notice (.unwritable site)] 0) := by
  have both : (desk.note notice).note (Tally.notice (.unwritable site)) =
      desk.after [notice, Tally.notice (.unwritable site)] 0 := by
    simp [Desk.note, Desk.after]
  rw [← both]
  rfl

theorem result_payloadText {value : Value} (shallow : Json.Payload.write value ≠ .error .tooDeep)
    (site : String) (desk : Desk) :
    (payloadText site value).result desk =
      (.ok (Written.ofPayload value).content,
        desk.after ((Written.ofPayload value).notices site) 0) := by
  unfold payloadText Written.ofPayload
  cases made : Json.Payload.write value with
  | ok content =>
    rw [Written.notices, Desk.after_nothing]
    rfl
  | error fault =>
    have others : fault ≠ .tooDeep := fun same => shallow (same ▸ made)
    cases fault with
    | tooDeep => exact absurd rfl others
    | _ => exact result_failed site _ desk

theorem result_payloadText_tooDeep {value : Value}
    (deep : Json.Payload.write value = .error .tooDeep) (site : String) (desk : Desk) :
    (payloadText site value).result desk = (.error .payloadTooDeep, desk) := by
  rw [payloadText, deep]
  rfl

/-- The content of a turn is always put down as a text. -/
theorem result_contentText (content : TurnContent) (desk : Desk) :
    (contentText content).result desk =
      (.ok content.written.content, desk.after (content.written.notices contentSite) 0) := by
  cases content with
  | text content =>
    rw [TurnContent.written, Written.notices, Desk.after_nothing]
    rfl
  | parts items =>
    rw [contentText, partsText, TurnContent.written]
    cases made : (Shape.list (items.map Part.shape)).toJson with
    | ok document => exact result_payloadText (Part.payload_ne_tooDeep made) contentSite desk
    | error fault => exact result_failed contentSite _ desk

def issues (given : String) : Nat := if given = "" then 1 else 0

/-- The identifier that stands for a given one after so many were issued. -/
def identifier (given : String) (issued : Nat) : String :=
  if given = "" then Recording.issuedId (issued + 1) else given

theorem result_idOrFresh (given : String) (desk : Desk) :
    (Recording.idOrFresh (.str given)).result desk =
      (.ok (.str (identifier given desk.issued)), desk.after [] (issues given)) := by
  unfold identifier issues
  by_cases empty : given = ""
  · rw [if_pos empty, if_pos empty, empty]
    simp only [Desk.after, List.append_nil]
    rfl
  · have isGiven : (Value.str given).isGiven = true := by simpa [Value.isGiven] using empty
    rw [if_neg empty, if_neg empty, Desk.after_nothing, Recording.idOrFresh, if_pos isGiven]
    rfl

/-- A message that is made of parts which are all checked. -/
def recorded (metadata : Mapping) (name : Option String) (content id : String) (extras : Mapping)
    (variant : Variant) : Message where
  content := .text content
  id
  name
  additional := extras
  responseMetadata := metadata
  variant

/-- The message of a turn under an identifier. -/
def ofTurnAs (metadata : Mapping) (name : Option String) (turn : Turn) (id : String) : Message :=
  recorded metadata name turn.content.written.content id [] (ofRole turn.role)

/-- The messages of turns, one each and in order, after so many identifiers were issued. -/
def ofTurnsAs (metadata : Mapping) (name : Option String) (threadId : String) :
    Nat → List Turn → List Message
  | _, [] => []
  | issued, turn :: rest =>
    ofTurnAs metadata name turn (identifier threadId issued) ::
      ofTurnsAs metadata name threadId (issued + issues threadId) rest

/-- The work on a request: the messages of its turns, with its metadata. -/
def ofRequest (agent : Value) (request : Request) (identity : Identity) (model : ModelArgs) :
    Recording (List Message) :=
  ofTurns { agent, request := some request, model } identity (request.turns.map .checked)

/-- What is noted while messages of turns are made. -/
def turnNotices (turns : List Turn) : List Notice :=
  turns.flatMap fun turn => turn.content.written.notices contentSite

section Named

variable {origin : Origin} {name : Option String}
  (named : Validation.nullable Validation.text origin.agent = .valid name)
include named

theorem result_make (content id : String) (extras : Mapping) (variant : Variant) (desk : Desk) :
    (make origin content (.str id) extras variant).result desk =
      (.ok (recorded origin.metadata name content id extras variant), desk) := by
  rw [make, named]
  rfl

section Turns

variable {identity : Identity} {threadId : String} (thread : identity.threadId = .str threadId)
include thread

theorem result_ofTurn (turn : Turn) (desk : Desk) :
    (ofTurn origin identity (.checked turn)).result desk =
      (.ok (ofTurnAs origin.metadata name turn (identifier threadId desk.issued)),
        desk.after (turn.content.written.notices contentSite) (issues threadId)) := by
  have text : (Outgoing.checked turn).text = contentText turn.content := rfl
  have role : (liftM (Outgoing.checked turn).role : Recording Role) = pure turn.role := rfl
  rw [ofTurn, thread, text, role, result_bind, result_contentText]
  simp only [pure_bind, result_bind, result_idOrFresh, result_make named, Desk.after_after,
    Desk.after_issued, List.append_nil, Nat.add_zero, Nat.zero_add]
  rfl

/-- The turns of a request are always made into messages, one each. -/
theorem result_ofTurns (turns : List Turn) (desk : Desk) :
    (ofTurns origin identity (turns.map .checked)).result desk =
      (.ok (ofTurnsAs origin.metadata name threadId desk.issued turns),
        desk.after (turnNotices turns) (turns.length * issues threadId)) := by
  induction turns generalizing desk with
  | nil =>
    rw [List.length_nil, Nat.zero_mul, turnNotices, List.flatMap_nil, Desk.after_nothing]
    rfl
  | cons turn rest ih =>
    rw [List.map_cons, ofTurns, result_bind, result_ofTurn named thread]
    simp only [result_bind, ih, result_pure, Desk.after_after, Desk.after_issued]
    rw [List.length_cons, Nat.succ_mul, Nat.add_comm (rest.length * _)]
    rfl

end Turns

end Named

end Message

end Transcript
