import Transcript.Proofs.Json.Unambiguous
import Transcript.Proofs.Store.Identifiers
import Transcript.Proofs.Store.Patience

namespace Transcript

namespace Json

variable {longest : ℕ∞}

theorem word_of_spellsItems {chars : List Char} {items : List Json}
    (spelled : SpellsItems longest chars items) : chars.all isGap = false := by
  obtain ⟨c, rest, begun, _⟩ := spelled.trim_append []
  cases blank : chars.all isGap with
  | false => rfl
  | true =>
    rw [trim_gaps blank] at begun
    cases begun

theorem spellsItems_append {others : List Char} {right : List Json}
    (behind : SpellsItems longest others right) {chars : List Char} {left : List Json}
    (spelled : SpellsItems longest chars left) :
    SpellsItems longest (chars ++ ',' :: others) (left ++ right) := by
  cases spelled with
  | last first => exact .more first behind
  | more first later =>
    have whole := SpellsItems.more first (spellsItems_append behind later)
    simpa using whole

theorem named?_ne_arr (word : List Char) (items : List Json) : named? word ≠ some (.arr items) := by
  intro named
  unfold named? at named
  split at named
  · cases named
  split at named
  · cases named
  split at named
  · cases named
  obtain ⟨numeral, _, same⟩ := Option.map_eq_some_iff.mp named
  unfold Decimal.Numeral.document at same
  split at same <;> cases same

/-- An array is what stands between two brackets, with white space around them. -/
theorem brackets_of_spells {chars : List Char} {items : List Json}
    (spelled : Spells longest chars (.arr items)) :
    ∃ front inside back, chars = front ++ '[' :: (inside ++ ']' :: back) ∧
      front.all isGap = true ∧ back.all isGap = true ∧
      Within (SpellsItems longest) inside items := by
  obtain ⟨front, core, back, rfl, blankFront, blankBack, bare⟩ := spelled.bare
  cases bare with
  | word _ _ named => exact absurd named (named?_ne_arr _ _)
  | array within => exact ⟨front, _, back, by simp, blankFront, blankBack, within⟩

/-- What is left of the characters of an array without its brackets and what is around them. -/
def unbracketed (chars : List Char) : List Char :=
  ((chars.dropWhile isGap).tail.reverse.dropWhile isGap).tail.reverse

theorem unbracketed_eq {front inside back : List Char} (blankFront : front.all isGap = true)
    (blankBack : back.all isGap = true) :
    unbracketed (front ++ '[' :: (inside ++ ']' :: back)) = inside := by
  have behind (gap rest : List Char) {c : Char} (blank : gap.all isGap = true)
      (word : isGap c = false) : ((gap ++ c :: rest).dropWhile isGap).tail = rest := by
    rw [List.dropWhile_append_of_pos (by simpa using blank),
      List.dropWhile_cons_of_neg (by simp [word]), List.tail_cons]
  unfold unbracketed
  rw [behind front _ blankFront rfl]
  have reversed : (inside ++ ']' :: back).reverse = back.reverse ++ ']' :: inside.reverse := by
    simp
  rw [reversed, behind back.reverse _ (by simpa using blankBack) rfl, List.reverse_reverse]

end Json

namespace Store

open Json (Spells isGap unbracketed)

/-- Two arrays as one. -/
def spliced (first second : String) : Option String :=
  let left := unbracketed first.toList
  let right := unbracketed second.toList
  some <|
    if left.all isGap then second
    else if right.all isGap then first
    else String.ofList ('[' :: (left ++ ',' :: right ++ [']']))

theorem spliced_joinsAll : JoinsAll spliced := fun _ _ => ⟨_, rfl⟩

/-- The items of two spliced arrays are those of the one and then those of the other. -/
theorem spells_spliced {first second both : String} {left right : List Json}
    (joined : spliced first second = some both) (here : Spells ⊤ first.toList (.arr left))
    (there : Spells ⊤ second.toList (.arr right)) :
    Spells ⊤ both.toList (.arr (left ++ right)) := by
  obtain ⟨_, inside, _, whole, blankFront, blankBack, spelled⟩ := Json.brackets_of_spells here
  obtain ⟨_, others, _, wholeOther, blankFrontOther, blankBackOther, spelledOther⟩ :=
    Json.brackets_of_spells there
  have leftInside : unbracketed first.toList = inside := by
    rw [whole, Json.unbracketed_eq blankFront blankBack]
  have rightInside : unbracketed second.toList = others := by
    rw [wholeOther, Json.unbracketed_eq blankFrontOther blankBackOther]
  rw [spliced, leftInside, rightInside] at joined
  rcases spelled with ⟨blank, rfl⟩ | spelled
  · rw [if_pos blank] at joined
    cases joined
    exact there
  · have word := Bool.eq_false_iff.mp (Json.word_of_spellsItems spelled)
    rw [if_neg word] at joined
    rcases spelledOther with ⟨blank, rfl⟩ | spelledOther
    · rw [if_pos blank] at joined
      cases joined
      rwa [List.append_nil]
    · have wordOther := Bool.eq_false_iff.mp (Json.word_of_spellsItems spelledOther)
      rw [if_neg wordOther] at joined
      cases joined
      rw [String.toList_ofList]
      exact .array (Json.spellsItems_append spelledOther spelled)

theorem spliced_preservesTexts : PreservesTexts spliced :=
  fun joined here there => ⟨_, spells_spliced joined here there, fun _ => rfl⟩

end Store

end Transcript
