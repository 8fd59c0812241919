import Transcript.Proofs.Json.Strict
import Transcript.Proofs.Message.Unwritable

/-! Contents and the JSON standard. A payload is told of and counted when it has no text; a payload
that has one is a text of the standard, unless it spells out an infinity or not-a-number. The parts
of a request never do, as they are payloads of their stored forms. -/

namespace Transcript

def Desk.errors (desk : Desk) : Nat := desk.notices.countP fun notice => notice.level = .error

/-- What became of a payload at a site, with the text that it has: there is none, of which one error
tells and which is counted once; or there is one and nothing is noted, and that text is one of the
standard if and only if the payload was sound. -/
inductive Pays (site : String) (sound : Prop) (before after : Desk) (text : String) : Prop where
  | failed (empty : text = "") (told : after.errors = before.errors + 1)
      (counted : before.CountsFailures after site 1)
  | written (some : text ≠ "") (silent : after.notices = before.notices)
      (strict : Json.IsStrict text ↔ sound)

namespace Pays

variable {site : String} {sound : Prop} {desk : Desk}

theorem of_failed {cause : Notice} (error : cause.level = .error)
    (counted : CountFailures site 1 [cause, Tally.notice (.unwritable site)]) (issued : Nat) :
    Pays site sound desk (desk.after [cause, Tally.notice (.unwritable site)] issued) "" := by
  refine .failed rfl ?_ (counted.counts desk issued)
  have quiet : (Tally.notice (.unwritable site)).level = .debug := rfl
  simp [Desk.errors, Desk.after, List.countP_append, error, quiet]

/-- Whatever was written, the desk and the text agree on it. -/
theorem of_written (written : Written)
    (strict : ∀ content, written = .text content → content ≠ "" ∧ (Json.IsStrict content ↔ sound))
    (issued : Nat) :
    Pays site sound desk (desk.after (written.notices site) issued) written.content := by
  have counted : CountFailures site (if written.failed then 1 else 0) (written.notices site) :=
    .written written
  cases written with
  | text content =>
    obtain ⟨some, same⟩ := strict content rfl
    exact .written some (List.append_nil _) same
  | unwritable cause => exact of_failed rfl counted issued
  | unstorable cause => exact of_failed rfl counted issued

theorem congr {before after other : Desk} {text : String} (pays : Pays site sound before after text)
    (sameBefore : before.notices = desk.notices) (sameAfter : other.notices = after.notices) :
    Pays site sound desk other text := by
  cases pays with
  | failed empty told counted =>
    refine .failed empty ?_ ?_
    · rwa [Desk.errors, sameAfter, Desk.errors, ← sameBefore]
    · intro name labels
      rw [Desk.counters, Desk.counters, sameAfter, ← sameBefore]
      exact counted name labels
  | written some silent strict =>
    exact .written some ((sameAfter.trans silent).trans sameBefore) strict

end Pays

theorem Written.strict_ofPayload {value : Value} {content : String}
    (text : Written.ofPayload value = .text content) :
    content ≠ "" ∧ (Json.IsStrict content ↔ value.HasNumbers) := by
  unfold Written.ofPayload at text
  cases made : Json.Payload.write value with
  | error fault =>
    rw [made] at text
    cases text
  | ok written =>
    rw [made] at text
    cases text
    exact ⟨Json.Payload.write_ne_empty made, Json.Payload.isStrict_write made⟩

/-- The stored forms of parts have no float that is no number, so neither have their payloads. -/
theorem TurnContent.strict_written {parts : List Part} {content : String}
    (text : (TurnContent.parts parts).written = .text content) :
    content ≠ "" ∧ (Json.IsStrict content ↔ True) := by
  rw [written] at text
  cases made : (Shape.list (parts.map Part.shape)).toJson with
  | error fault =>
    rw [made] at text
    cases text
  | ok document =>
    rw [made] at text
    have numbers := Json.hasNumbers_toValue document (Shape.leaves_toJsonWithin _ made)
    obtain ⟨some, same⟩ := Written.strict_ofPayload text
    exact ⟨some, same.trans (iff_true_intro numbers)⟩

namespace Message

open Recording (result_bind)

theorem pays_payloadText {site text : String} {value : Value} {desk after : Desk}
    (returned : (payloadText site value).result desk = (.ok text, after)) :
    Pays site value.HasNumbers desk after text := by
  by_cases deep : Json.Payload.write value = .error .tooDeep
  · rw [result_payloadText_tooDeep deep] at returned
    cases returned
  · rw [result_payloadText deep] at returned
    cases returned
    exact .of_written _ (fun _ => Written.strict_ofPayload) 0

theorem pays_contentText (parts : List Part) (desk : Desk) : ∃ text after,
    (contentText (.parts parts)).result desk = (.ok text, after) ∧
      Pays contentSite True desk after text :=
  ⟨_, _, result_contentText _ desk, .of_written _ (fun _ => TurnContent.strict_written) 0⟩

theorem notices_idOrFresh (candidate : Value) (desk : Desk) : ∃ id after,
    (Recording.idOrFresh candidate).result desk = (.ok id, after) ∧
      after.notices = desk.notices := by
  rw [Recording.idOrFresh]
  split
  · exact ⟨candidate, desk, rfl, rfl⟩
  · exact ⟨.str (Recording.issuedId (desk.issued + 1)), { desk with issued := desk.issued + 1 },
      rfl, rfl⟩

theorem result_make_ok {origin : Origin} {content : String} {id : Value} {extras : Mapping}
    {variant : Variant} {desk after : Desk} {message : Message}
    (made : (make origin content id extras variant).result desk = (.ok message, after)) :
    after = desk ∧ message.content = .text content := by
  unfold make at made
  cases idChecked : (Validation.text id).inside "id" <;>
    cases nameChecked : (Validation.nullable Validation.text origin.agent).inside "name" <;>
    rw [idChecked, nameChecked] at made <;> cases made
  exact ⟨rfl, rfl⟩

/-- The content of a tool message is the payload of the input of the tool. -/
theorem pays_toolUse {origin : Origin} {checkpointId : Value} {use : ToolUse} {desk after : Desk}
    {message : Message}
    (made :
      (ofEvent origin checkpointId (.toolUse use)).result desk = (.ok (some message), after)) :
    ∃ text, message.content = .text text ∧
      Pays toolSite use.input.HasNumbers desk after text := by
  obtain ⟨_, first, named, sameFirst⟩ := notices_idOrFresh checkpointId desk
  rw [ofEvent, result_bind, named] at made
  simp only [result_bind (payloadText _ _)] at made
  rcases paid : (payloadText "tool_input" use.input).result first with ⟨outcome, second⟩
  rw [paid] at made
  cases outcome with
  | error fault => cases made
  | ok text =>
    obtain ⟨id, third, given, sameThird⟩ := notices_idOrFresh (.str use.id) second
    simp only [result_bind (Recording.idOrFresh _), given, Recording.result_map] at made
    rcases last : (make origin text id
      [("raw_input", .str use.rawInput), ("is_input_complete", .bool use.isInputComplete)]
      (.tool (some use.id) (some use.name))).result third with ⟨outcome, fourth⟩
    rw [last] at made
    cases outcome with
    | error fault => cases made
    | ok message =>
      cases made
      obtain ⟨rfl, content⟩ := result_make_ok last
      exact ⟨text, content, (pays_payloadText paid).congr sameFirst sameThird⟩

/-- Whatever is to become a payload either leaves an empty text, one error and one count, or it has
a text and nothing is noted. The parts of a request are then a text of the standard; a free-form
value, such as the input of a tool, is one if and only if no infinity and not-a-number stands in it
as a value. -/
theorem payloads_are_strict_or_counted (desk : Desk) :
    (∀ site value text after, (payloadText site value).result desk = (.ok text, after) →
      Pays site value.HasNumbers desk after text) ∧
    (∀ parts, ∃ text after, (contentText (.parts parts)).result desk = (.ok text, after) ∧
      Pays contentSite True desk after text) ∧
    ∀ origin checkpointId use message after,
      (ofEvent origin checkpointId (.toolUse use)).result desk = (.ok (some message), after) →
      ∃ text, message.content = .text text ∧ Pays toolSite use.input.HasNumbers desk after text :=
  ⟨fun _ _ _ _ => pays_payloadText, fun parts => pays_contentText parts desk,
    fun _ _ _ _ _ => pays_toolUse⟩

/-- An infinity as a key is quoted and does no harm; octets are told of. -/
theorem payloads_are_strict_or_counted_inputs :
    Json.IsStrict "\x7b\"Infinity\": [1]\x7d" ∧
      ∃ after, (payloadText "site" (.list [.bytes [0]])).result {} = (.ok "", after) ∧
        after.errors = 1 := by
  obtain ⟨payload, _⟩ := payloads_are_strict_or_counted {}
  constructor
  · let value : Value := .mapping [(.float Decimal.infinity, .list [.int 1])]
    cases payload "site" value "\x7b\"Infinity\": [1]\x7d" {} rfl with
    | failed empty => exact absurd empty (by decide)
    | written _ _ strict => exact strict.mpr ⟨⟨trivial, trivial⟩, trivial⟩
  · obtain ⟨after, made⟩ : ∃ after,
        (payloadText "site" (.list [.bytes [0]])).result {} = (.ok "", after) := ⟨_, rfl⟩
    refine ⟨after, made, ?_⟩
    cases payload "site" _ "" after made with
    | failed _ told => exact told
    | written some => exact absurd rfl some

/-- The payload of not-a-number is neither empty nor a text of the standard. -/
theorem payload_of_notANumber_is_not_strict :
    ¬ ∀ site value desk text after,
      (payloadText site value).result desk = (.ok text, after) →
        (text = "" ∧ after.errors = desk.errors + 1 ∧ desk.CountsFailures after site 1) ∨
          (Json.IsStrict text ∧ after.notices = desk.notices) := by
  intro all
  have made : Json.Payload.write (.float Decimal.notANumber) = .ok "NaN" := rfl
  rcases all "site" (.float Decimal.notANumber) {} "NaN" {} rfl with ⟨empty, _⟩ | ⟨strict, _⟩
  · exact absurd empty (by decide)
  · have finite : Decimal.isFinite Decimal.notANumber = true :=
      (Json.Payload.isStrict_write made).mp strict
    cases finite

end Message

end Transcript
