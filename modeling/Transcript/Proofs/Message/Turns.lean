import Transcript.Proofs.Message.Outcome
import Transcript.Proofs.Message.Identifier
import Transcript.Proofs.TaskPath

/-! The messages of a request. Every turn gives one message, in the place of the turn, which is
told by that turn and by what the request says as a whole: no turn shows in the message of
another. -/

namespace Transcript

open Recording (issuedId)

theorem Recording.issuedId_injective {number other : Nat}
    (same : issuedId number = issuedId other) : number = other := by
  have digits : Nat.toDigits 10 number = Nat.toDigits 10 other := by
    have texts := congrArg String.toList same
    simp only [issuedId, String.toList_append] at texts
    have behind := List.append_cancel_left texts
    change (String.ofList (Nat.toDigits 10 number)).toList =
      (String.ofList (Nat.toDigits 10 other)).toList at behind
    rwa [String.toList_ofList, String.toList_ofList] at behind
  rw [← Decimal.digitsValue_toDigits number, digits, Decimal.digitsValue_toDigits]

/-- Metadata that names the model, and of provider and request what is given: everything under its
name, and nothing without a value. -/
structure Mapping.Describes (metadata : Mapping) (request : Request) (modelId : String)
    (providerId : Option String) : Prop where
  model : metadata.lookup "model_id" = some (.str modelId)
  provider : metadata.lookup "provider_id" = (providerId.filter (· ≠ "")).map .str
  temperature : metadata.lookup "temperature" = request.temperature.map .float
  intent : metadata.lookup "intent" = request.intent.map fun intent => .str intent.name
  mode : metadata.lookup "mode" = request.mode.map fun mode => .str mode.name
  promptId : metadata.lookup "prompt_id" = request.promptId.map .str
  names : (metadata.map Prod.fst).Sublist
    ["model_id", "provider_id", "temperature", "intent", "mode", "prompt_id"]
  filled : ∀ entry ∈ metadata, entry.2 ≠ .null

theorem provider_entry (modelId : String) (providerId : Option String) :
    (if (ModelArgs.ofTexts modelId providerId).providerId.isGiven then
      [("provider_id", (ModelArgs.ofTexts modelId providerId).providerId)] else []) =
        entryIf "provider_id" .str (providerId.filter (· ≠ "")) := by
  cases providerId with
  | none => rfl
  | some given =>
    by_cases empty : given = ""
    · simp [ModelArgs.ofTexts, Value.isGiven, entryIf, Option.filter, empty]
    · simp [ModelArgs.ofTexts, Value.isGiven, entryIf, Option.filter, empty]

theorem entryIf_filled {α : Type} {value : α → Value} (filled : ∀ one, value one ≠ .null)
    (name : String) (content : Option α) :
    ∀ entry ∈ entryIf name value content, entry.2 ≠ .null := by
  intro entry member
  cases content with
  | none => cases member
  | some one =>
    cases List.mem_singleton.mp member
    exact filled one

theorem completionMetadata_describes (request : Request) (modelId : String)
    (providerId : Option String) :
    Mapping.Describes (completionMetadata (some request) (.ofTexts modelId providerId)) request
      modelId providerId := by
  have entries : completionMetadata (some request) (.ofTexts modelId providerId) =
      entryIf "model_id" .str (some modelId) ++
        (entryIf "provider_id" .str (providerId.filter (· ≠ "")) ++
          (entryIf "temperature" .float request.temperature ++
            (entryIf "intent" (fun intent => .str intent.name) request.intent ++
              (entryIf "mode" (fun mode => .str mode.name) request.mode ++
                (entryIf "prompt_id" .str request.promptId ++ []))))) := by
    rw [completionMetadata, provider_entry]
    simp [entryIf, Request.metadata, ModelArgs.ofTexts]
  rw [entries]
  constructor
  case names =>
    simp only [List.map_append]
    have name {α : Type} {value : α → Value} {content : Option α} {names rest : List String}
        (text : String) (later : rest.Sublist names) :
        ((entryIf text value content).map Prod.fst ++ rest).Sublist (text :: names) :=
      (Mapping.entryIf_names text).append later
    exact name _ (name _ (name _ (name _ (name _ (name _ (.refl []))))))
  case filled =>
    have text (one : String) : Value.str one ≠ .null := by simp
    have float (one : Float) : Value.float one ≠ .null := by simp
    simp only [List.mem_append, List.not_mem_nil, or_false]
    rintro entry (model | provider | temperature | intent | mode | promptId)
    · exact entryIf_filled text _ _ entry model
    · exact entryIf_filled text _ _ entry provider
    · exact entryIf_filled float _ _ entry temperature
    · exact entryIf_filled (fun (intent : Intent) => text intent.name) _ _ entry intent
    · exact entryIf_filled (fun (mode : Mode) => text mode.name) _ _ entry mode
    · exact entryIf_filled text _ _ entry promptId
  all_goals
    simp only [lookup_entryIf, String.reduceEq, ↓reduceIte, List.lookup_nil, Option.or_none,
      Option.map_some]

/-- What the message of a turn says: its content as it is or as the JSON text of its parts, and its
role by the variant. -/
structure Turn.IsRecordedAs (turn : Turn) (message : Message) : Prop where
  content : message.content = .text turn.content.written.content
  variant : message.variant = match turn.role with
    | .user => .human
    | .system => .system
    | .assistant => .ai none none
  additional : message.additional = []
  plain : message.isExample = false

namespace Message

variable {metadata : Mapping} {name : Option String} {threadId : String}

theorem ofTurnAs_isRecorded (turn : Turn) (id : String) :
    turn.IsRecordedAs (ofTurnAs metadata name turn id) where
  content := rfl
  variant := by
    rw [ofTurnAs, recorded]
    cases turn.role <;> rfl
  additional := rfl
  plain := rfl

theorem ofTurnsAs_forall {holds : Turn → Message → Prop}
    (each : ∀ turn id, holds turn (ofTurnAs metadata name turn id)) (turns : List Turn)
    (issued : Nat) : List.Forall₂ holds turns (ofTurnsAs metadata name threadId issued turns) := by
  induction turns generalizing issued with
  | nil => exact .nil
  | cons turn rest ih => exact .cons (each turn _) (ih _)

theorem getElem?_ofTurnsAs (metadata : Mapping) (name : Option String) (threadId : String)
    {turns : List Turn} {index : Nat} {turn : Turn} (here : turns[index]? = some turn)
    (issued : Nat) :
    ∃ id, (ofTurnsAs metadata name threadId issued turns)[index]? =
      some (ofTurnAs metadata name turn id) := by
  induction turns generalizing index issued with
  | nil => cases here
  | cons first rest ih =>
    cases index with
    | zero =>
      cases here
      exact ⟨_, rfl⟩
    | succ index => exact ih here _

theorem ofTurnsAs_thread (some : threadId ≠ "") (turns : List Turn) (issued : Nat) :
    ∀ message ∈ ofTurnsAs metadata name threadId issued turns, message.id = threadId := by
  induction turns generalizing issued with
  | nil => exact fun message member => nomatch member
  | cons turn rest ih => exact List.forall_mem_cons.mpr ⟨if_neg some, ih _⟩

/-- Where the thread has none, every message gets one that was not issued before. -/
theorem ofTurnsAs_fresh (turns : List Turn) (issued : Nat) :
    ∀ message ∈ ofTurnsAs metadata name "" issued turns,
      ∃ number, issued < number ∧ message.id = issuedId number := by
  induction turns generalizing issued with
  | nil => exact fun message member => nomatch member
  | cons turn rest ih =>
    rw [ofTurnsAs, List.forall_mem_cons]
    constructor
    · exact ⟨issued + 1, Nat.lt_succ_self issued, rfl⟩
    · intro message member
      obtain ⟨number, later, id⟩ := ih (issued + 1) message member
      exact ⟨number, Nat.lt_of_succ_lt later, id⟩

theorem ofTurnsAs_distinct (turns : List Turn) (issued : Nat) :
    ((ofTurnsAs metadata name "" issued turns).map Message.id).Nodup := by
  induction turns generalizing issued with
  | nil => exact List.nodup_nil
  | cons turn rest ih =>
    rw [ofTurnsAs, List.map_cons, List.nodup_cons]
    constructor
    · intro again
      obtain ⟨message, member, same⟩ := List.mem_map.mp again
      obtain ⟨number, later, id⟩ := ofTurnsAs_fresh rest (issued + 1) message member
      have number_eq : number = issued + 1 := Recording.issuedId_injective (id.symm.trans same)
      omega
    · exact ih (issued + 1)

/-- A turn at some place is recorded in the same way, whatever stands at the others. -/
theorem ofTurnsAs_apart {turns others : List Turn} {index position : Nat} {turn : Turn}
    (here : turns[index]? = some turn) (there : others[position]? = some turn)
    (issued later : Nat) :
    ∃ message other : Message,
      (ofTurnsAs metadata name threadId issued turns)[index]? = some message ∧
      (ofTurnsAs metadata name threadId later others)[position]? = some other ∧
      { message with id := other.id } = other ∧ (threadId ≠ "" → message = other) := by
  obtain ⟨id, message⟩ := getElem?_ofTurnsAs metadata name threadId here issued
  obtain ⟨otherId, other⟩ := getElem?_ofTurnsAs metadata name threadId there later
  refine ⟨_, _, message, other, rfl, fun some => ?_⟩
  have own := ofTurnsAs_thread some turns issued _ (List.mem_of_getElem? message)
  have same := ofTurnsAs_thread some others later _ (List.mem_of_getElem? other)
  exact congrArg (ofTurnAs metadata name turn) (own.trans same.symm)

/-- The turns of a request are recorded one by one and in order. The messages are known by the
thread, or by identifiers of their own that were not issued before; and a turn is recorded in the
same way, whichever turns stand beside it. -/
theorem ofRequest_one_each {agent : Value} {name : Option String}
    (named : Validation.nullable Validation.text agent = .valid name) (request : Request)
    (threadId promptId sessionId checkpointId modelId : String) (providerId : Option String)
    (desk : Desk) :
    ∃ (messages : List Message) (after : Desk),
      (ofRequest agent request (.ofTexts threadId promptId sessionId checkpointId)
        (.ofTexts modelId providerId)).result desk = (.ok messages, after) ∧
      List.Forall₂ (fun turn message => turn.IsRecordedAs message ∧ message.name = name ∧
        Mapping.Describes message.responseMetadata request modelId providerId)
          request.turns messages ∧
      (threadId ≠ "" → ∀ message ∈ messages, message.id = threadId) ∧
      (threadId = "" → (messages.map Message.id).Nodup ∧
        ∀ message ∈ messages, ∃ number, desk.issued < number ∧ message.id = issuedId number) ∧
      ∀ (turns : List Turn) (start : Desk) (others : List Message) (left : Desk),
        (ofRequest agent { request with turns } (.ofTexts threadId promptId sessionId checkpointId)
          (.ofTexts modelId providerId)).result start = (.ok others, left) →
        ∀ (index position : Nat) (turn : Turn), request.turns[index]? = some turn →
          turns[position]? = some turn →
          ∃ message other : Message, messages[index]? = some message ∧
            others[position]? = some other ∧ { message with id := other.id } = other ∧
            (threadId ≠ "" → message = other) := by
  have made (turns : List Turn) (start : Desk) :
      (ofRequest agent { request with turns } (.ofTexts threadId promptId sessionId checkpointId)
        (.ofTexts modelId providerId)).result start =
          (.ok (ofTurnsAs (completionMetadata (some request) (.ofTexts modelId providerId)) name
              threadId start.issued turns),
            start.after (turnNotices turns) (turns.length * issues threadId)) :=
    result_ofTurns named rfl turns start
  refine ⟨_, _, made request.turns desk, ?_, ?_, ?_, ?_⟩
  · apply ofTurnsAs_forall
    intro turn id
    have described := completionMetadata_describes request modelId providerId
    exact ⟨ofTurnAs_isRecorded turn id, rfl, described⟩
  · intro some
    exact ofTurnsAs_thread some _ _
  · rintro rfl
    exact ⟨ofTurnsAs_distinct _ _, ofTurnsAs_fresh _ _⟩
  · intro turns start others left run index position turn here there
    have same := run.symm.trans (made turns start)
    obtain rfl := Except.ok.inj (congrArg Prod.fst same)
    exact ofTurnsAs_apart here there _ _

/-- A request with a turn of each role, one of them with content that cannot be written. -/
def conversation : Request where
  turns := [{ role := .system, content := .text "be brief" },
    { role := .user, content := .parts [.text "hi", .image "a.png" 2 3] },
    { role := .assistant,
      content := .parts [.toolUse { id := "t", name := "n", input := .object }] }]
  intent := some .userPrompt

theorem ofRequest_one_each_conversation :
    Validation.nullable Validation.text (.str "IdeAgent") = .valid (some "IdeAgent") ∧
      ∃ (messages : List Message) (after : Desk),
        (ofRequest (.str "IdeAgent") conversation (.ofTexts "" "" "" "")
          (.ofTexts "m" (some ""))).result {} = (.ok messages, after) ∧
        messages.length = 3 ∧ (messages.map Message.id).Nodup := by
  have named : Validation.nullable Validation.text (.str "IdeAgent") = .valid (some "IdeAgent") :=
    rfl
  obtain ⟨messages, after, made, each, _, fresh, _⟩ :=
    ofRequest_one_each named conversation "" "" "" "" "m" (some "") {}
  exact ⟨named, messages, after, made, each.length_eq.symm, (fresh rfl).1⟩

end Message

end Transcript
