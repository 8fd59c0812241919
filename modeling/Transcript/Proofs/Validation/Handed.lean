import Transcript.Proofs.Json.Accepted
import Transcript.Proofs.Text.Utf8
import Transcript.Validation.Record

namespace Transcript.Validation

open Json (Spells)

/-- What hands a text over: the text itself, or its octets. -/
inductive Hands : Value → String → Prop where
  | text (content : String) : Hands (.str content) content
  | octets (content : String) : Hands (.bytes (Text.Utf8.octets content)) content

variable {α : Type} {data value : Value} {text : String} {document : Json}
  {load : Value → Checked α} {result : α}

theorem Hands.document_eq (hands : Hands data text) : Validation.document data =
    .ofOption .jsonSyntax ((Json.read? readDepth text).map Json.toValue) := by
  cases hands with
  | text => rfl
  | octets => rw [Validation.document, Text.Utf8.decode?_octets, Option.bind_some]

/-- Only what a text spells is checked. -/
theorem read?_of_document (valid : Validation.document data = .valid value) :
    ∃ text document, Json.read? readDepth text = some document ∧ value = document.toValue := by
  have read {given : Option Json}
      (valid : Checked.ofOption .jsonSyntax (given.map Json.toValue) = .valid value) :
      ∃ document, given = some document ∧ value = document.toValue := by
    cases given with
    | none => cases valid
    | some document =>
      cases valid
      exact ⟨document, rfl, rfl⟩
  cases data with
  | str text =>
    obtain ⟨document, found, rfl⟩ := read valid
    exact ⟨text, document, found, rfl⟩
  | bytes octets =>
    obtain ⟨document, found, rfl⟩ := read valid
    obtain ⟨text, _, found⟩ := Option.bind_eq_some_iff.mp found
    exact ⟨text, document, found, rfl⟩
  | _ => cases valid

namespace Hands

variable (hands : Hands data text)
include hands

theorem spelled (spelled : Spells Decimal.integerLimit text.toList document)
    (shallow : document.depth ≤ readDepth + 1) (load : Value → Checked α) :
    (Validation.document data).andThen load = load document.toValue := by
  rw [hands.document_eq, Json.read?_spelled spelled shallow]
  rfl

/-- What is accepted was read from the text. -/
theorem valid_iff : (Validation.document data).andThen load = .valid result ↔
    ∃ document, Json.read? readDepth text = some document ∧
      load document.toValue = .valid result := by
  rw [hands.document_eq]
  cases Json.read? readDepth text with
  | none => exact iff_of_false nofun (by simp)
  | some document => simp [Checked.ofOption, Checked.andThen]

end Hands

end Transcript.Validation
