import Transcript.Proofs.Json.Collapsed
import Transcript.Validation.Record

namespace Transcript

namespace Checked

variable {α β : Type} {check : Checked α} {holds other : Prop}

/-- A check accepts what has a property, and names an issue of what has not. -/
def Decides (check : Checked α) (holds : Prop) : Prop :=
  match check with
  | .valid _ => holds
  | .invalid issues => ¬ holds ∧ issues ≠ []

def issues : Checked α → List Issue
  | .valid _ => []
  | .invalid issues => issues

theorem issues_map (build : α → β) : (build <$> check).issues = check.issues := by
  cases check <;> rfl

theorem issues_seq (build : Checked (α → β)) :
    (build <*> check).issues = build.issues ++ check.issues := by
  cases build <;> cases check <;> first | rfl | exact (List.append_nil _).symm

theorem issues_under (step : PathStep) : (check.under step).issues =
    check.issues.map fun issue => ⟨step :: issue.path, issue.rule⟩ := by
  cases check <;> rfl

namespace Decides

theorem valid_iff (decides : check.Decides holds) : (∃ value, check = .valid value) ↔ holds := by
  cases check with
  | valid value => exact iff_of_true ⟨value, rfl⟩ decides
  | invalid issues => exact iff_of_false nofun decides.1

theorem issues_iff (decides : check.Decides holds) : check.issues ≠ [] ↔ ¬ holds := by
  cases check with
  | valid => exact iff_of_false (fun some => some rfl) (not_not_intro decides)
  | invalid issues => exact iff_of_true decides.2 decides.1

theorem congr (decides : check.Decides holds) (same : holds ↔ other) : check.Decides other :=
  propext same ▸ decides

theorem map (build : α → β) (decides : check.Decides holds) :
    (build <$> check).Decides holds := by
  cases check <;> exact decides

theorem seq {build : Checked (α → β)} (first : build.Decides holds)
    (second : check.Decides other) : (build <*> check).Decides (holds ∧ other) := by
  cases build with
  | valid => cases check with
    | valid => exact ⟨first, second⟩
    | invalid => exact ⟨fun both => second.1 both.2, second.2⟩
  | invalid => cases check with
    | valid => exact ⟨fun both => first.1 both.1, first.2⟩
    | invalid => exact ⟨fun both => first.1 both.1, by simp [first.2]⟩

theorem under (step : PathStep) (decides : check.Decides holds) :
    (check.under step).Decides holds := by
  cases check with
  | valid => exact decides
  | invalid issues => exact ⟨decides.1, by simpa using decides.2⟩

theorem fail (fails : ¬ holds) (rule : Rule) : (Checked.fail rule : Checked α).Decides holds :=
  ⟨fails, List.cons_ne_nil _ _⟩

end Decides

end Checked

namespace Json

def IsText : Json → Prop
  | .str _ => True
  | _ => False

def IsObject : Json → Prop
  | .obj _ => True
  | _ => False

def IsTexts (document : Json) : Prop :=
  ∃ items, document = .arr items ∧ ∀ item ∈ items, item.IsText

/-- What counts as a truth value: besides the two themselves the numbers one and zero, and words
for either in any case. -/
def IsFlag : Json → Prop
  | .bool _ => True
  | .int number => number = 0 ∨ number = 1
  | .float number => Decimal.integer? number = some 0 ∨ Decimal.integer? number = some 1
  | .str word =>
    word.toLower ∈ Validation.trueWords ∨ word.toLower ∈ Validation.falseWords
  | _ => False

end Json

namespace Validation

open Json (IsText IsObject IsTexts IsFlag lastOf? valueEntries)

variable {α : Type} {check : Value → Checked α} {holds : Json → Prop} {document : Json}

theorem decides_text (document : Json) : (text document.toValue).Decides document.IsText := by
  cases document with
  | str => exact trivial
  | null | bool | int | float | arr | obj => exact .fail id _

theorem decides_nullable (decides : (check document.toValue).Decides (holds document)) :
    (nullable check document.toValue).Decides (document = .null ∨ holds document) := by
  cases document with
  | null => exact .inl rfl
  | bool | int | float | str | arr | obj => exact (decides.map some).congr (by simp)

theorem decides_mapping (document : Json) :
    (mapping document.toValue).Decides document.IsObject := by
  have texts (mapping : Mapping) :
      (textEntries (mapping.map fun entry => (.str entry.1, entry.2))).Decides True := by
    induction mapping with
    | nil => exact trivial
    | cons entry rest ih =>
      have here : (text (.str entry.1)).Decides True := trivial
      exact ((((here.under _).under _).map _).map _).seq ih |>.congr (by simp)
  cases document with
  | obj entries => exact (texts _).map collapse
  | null | bool | int | float | str | arr => exact .fail id _

theorem decides_flagOfWord (word : String) :
    (flagOfWord word).Decides (word.toLower ∈ trueWords ∨ word.toLower ∈ falseWords) := by
  simp only [flagOfWord, List.contains_iff_mem]
  split
  · rename_i isTrue
    exact .inl isTrue
  · rename_i notTrue
    split
    · rename_i isFalse
      exact .inr isFalse
    · rename_i notFalse
      exact .fail (not_or.mpr ⟨notTrue, notFalse⟩) _

theorem decides_flagOfInt (number : Int) :
    (flagOfInt number).Decides (number = 0 ∨ number = 1) := by
  unfold flagOfInt
  split_ifs with zero one
  · exact .inl zero
  · exact .inr one
  all_goals exact .fail (not_or.mpr ⟨zero, one⟩) _

theorem decides_flagOfFloat (number : Float) : (flagOfFloat number).Decides
    (Decimal.integer? number = some 0 ∨ Decimal.integer? number = some 1) := by
  have odd : Decimal.isFinite number = false → Decimal.integer? number = none := by
    unfold Decimal.isFinite Decimal.integer?
    cases Decimal.Kind.ofFloat number <;> simp
  unfold flagOfFloat integerOfFloat
  cases finite : Decimal.isFinite number with
  | false => exact .fail (by simp [odd finite]) _
  | true =>
    cases whole : Decimal.integer? number with
    | none => exact .fail (by simp) _
    | some integer =>
      simp only [Option.some.injEq]
      by_cases near : integer.natAbs < wordBound
      · simp only [near, if_true]
        exact decides_flagOfInt integer
      · simp only [near, if_false]
        refine .fail ?_ _
        rintro (rfl | rfl) <;> exact near (by decide)

theorem decides_flag (document : Json) : (flag document.toValue).Decides document.IsFlag := by
  cases document with
  | bool => exact trivial
  | int number => exact decides_flagOfInt number
  | float number => exact decides_flagOfFloat number
  | str word => exact decides_flagOfWord word
  | null | arr | obj => exact .fail id _

theorem decides_literal (kind : String) (document : Json) :
    (literal kind document.toValue).Decides (document = .str kind) := by
  cases document with
  | str word =>
    have compared : literal kind (Json.str word).toValue =
        .ofOption .literal (if word = kind then some () else none) := rfl
    rw [compared]
    split
    · rename_i same
      exact congrArg Json.str same
    · rename_i other
      exact .fail (by simpa using other) _
  | null | bool | int | float | arr | obj => exact .fail nofun _

section Items

variable (each : ∀ item : Json, (check item.toValue).Decides (holds item))
include each

theorem decides_itemsFrom (items : List Json) (position : Int) :
    (itemsFrom check position (Json.toValues items)).Decides (∀ item ∈ items, holds item) := by
  induction items generalizing position with
  | nil => exact nofun
  | cons item rest ih =>
    have both := (((each item).under (.index position)).map List.cons).seq (ih (position + 1))
    exact both.congr List.forall_mem_cons.symm

theorem decides_listOf (document : Json) : (listOf check document.toValue).Decides
    (∃ items, document = .arr items ∧ ∀ item ∈ items, holds item) := by
  cases document with
  | arr items => exact (decides_itemsFrom each items 0).congr (by simp)
  | null | bool | int | float | str | obj => exact .fail (by simp) _

omit each in
theorem issues_itemsFrom (item : Json) (rest : List Json) (position : Int) :
    (itemsFrom check position (Json.toValues (item :: rest))).issues =
      ((check item.toValue).under (.index position)).issues ++
        (itemsFrom check (position + 1) (Json.toValues rest)).issues := by
  rw [Json.toValues, itemsFrom, Checked.issues_seq, Checked.issues_map]

omit each in
theorem position_of_issue {items : List Json} {position : Int} {issue : Issue}
    (named : issue ∈ (itemsFrom check position (Json.toValues items)).issues) :
    ∃ offset : Nat, issue.path.head? = some (.index (position + offset)) := by
  induction items generalizing position with
  | nil => cases named
  | cons item rest ih =>
    rw [issues_itemsFrom, Checked.issues_under, List.mem_append, List.mem_map] at named
    rcases named with ⟨inner, _, rfl⟩ | later
    · exact ⟨0, by simp⟩
    · obtain ⟨offset, head⟩ := ih later
      refine ⟨offset + 1, head.trans ?_⟩
      congr 2
      omega

/-- An item has an issue under its position when it has not the property. -/
theorem issue_at_iff {items : List Json} {offset : Nat} {item : Json}
    (found : items[offset]? = some item) (position : Int) :
    (∃ issue ∈ (itemsFrom check position (Json.toValues items)).issues,
      issue.path.head? = some (.index (position + offset))) ↔ ¬ holds item := by
  induction items generalizing offset position with
  | nil => cases found
  | cons first rest ih =>
    rw [issues_itemsFrom, Checked.issues_under]
    cases offset with
    | zero =>
      cases found
      rw [← (each item).issues_iff]
      constructor
      · rintro ⟨issue, member, head⟩ none
        rw [none, List.map_nil, List.nil_append] at member
        obtain ⟨offset, other⟩ := position_of_issue member
        rw [head] at other
        simp only [Option.some.injEq, PathStep.index.injEq] at other
        omega
      · intro some
        obtain ⟨issue, member⟩ := List.exists_mem_of_ne_nil _ some
        exact ⟨_, List.mem_append_left _ (List.mem_map.mpr ⟨issue, member, rfl⟩), by simp⟩
    | succ offset =>
      have shift : position + 1 + (offset : Int) = position + (offset + 1 : Nat) := by omega
      rw [← ih found (position + 1), shift]
      constructor
      · rintro ⟨issue, member, head⟩
        rcases List.mem_append.mp member with here | later
        · obtain ⟨inner, _, rfl⟩ := List.mem_map.mp here
          simp only [List.head?_cons, Option.some.injEq, PathStep.index.injEq] at head
          omega
        · exact ⟨issue, later, head⟩
      · rintro ⟨issue, member, head⟩
        exact ⟨issue, List.mem_append_right _ member, head⟩

end Items

theorem decides_either {β γ : Type} {left : Value → Checked β} {right : Value → Checked γ}
    {inl : β → α} {inr : γ → α} {input : Value} {one other : Prop} (first second : String)
    (isOne : (left input).Decides one) (isOther : (right input).Decides other) :
    (either first left second right inl inr input).Decides (one ∨ other) := by
  unfold either
  cases given : left input with
  | valid =>
    rw [given] at isOne
    exact .inl isOne
  | invalid issues =>
    rw [given] at isOne
    cases alternative : right input with
    | valid =>
      rw [alternative] at isOther
      exact .inr isOther
    | invalid more =>
      rw [alternative] at isOther
      exact ⟨not_or.mpr ⟨isOne.1, isOther.1⟩, by simpa using fun none => absurd none isOne.2⟩

section Fields

variable (entries : List (String × Json)) (name : String)
  (each : ∀ item : Json, (check item.toValue).Decides (holds item))
include each

theorem decides_required :
    (required (valueEntries (collapse entries)) name check).Decides
      (∃ item ∈ lastOf? name entries, holds item) := by
  unfold required
  rw [Json.lookup?_collapse]
  cases lastOf? name entries with
  | none => exact (Checked.Decides.fail (by simp) .missing).under _
  | some item => exact ((each item).under _).congr (by simp)

theorem decides_optional (absent : α) :
    (optional (valueEntries (collapse entries)) name absent check).Decides
      (∀ item ∈ lastOf? name entries, holds item) := by
  unfold optional
  rw [Json.lookup?_collapse]
  cases lastOf? name entries with
  | none => exact nofun
  | some item => exact ((each item).under _).congr (by simp)

end Fields

/-- An object is read by what its tag names, if the tag names anything. -/
theorem decides_tagged {variant? : String → Option (List (Value × Value) → Checked α)}
    {fits : List (String × Json) → String → Prop} {name : String}
    (known : ∀ {entries tag build}, variant? tag = some build →
      lastOf? name entries = some (.str tag) →
      (build (valueEntries (collapse entries))).Decides (fits entries tag))
    (unknown : ∀ {entries tag}, variant? tag = none → ¬ fits entries tag) (source : Source)
    (document : Json) : (tagged source name variant? document.toValue).Decides
      (∃ entries tag, document = .obj entries ∧ lastOf? name entries = some (.str tag) ∧
        fits entries tag) := by
  have noObject (rule : Rule) (other : ∀ entries, document ≠ .obj entries) :
      (Checked.fail rule : Checked α).Decides (∃ entries tag, document = .obj entries ∧
        lastOf? name entries = some (.str tag) ∧ fits entries tag) :=
    .fail (fun ⟨entries, _, same, _⟩ => other entries same) rule
  cases document with
  | obj entries =>
    have alone : (∃ others tag, Json.obj entries = .obj others ∧
        lastOf? name others = some (.str tag) ∧ fits others tag) ↔
          ∃ tag, lastOf? name entries = some (.str tag) ∧ fits entries tag := by
      simp
    refine Checked.Decides.congr ?_ alone.symm
    rw [Json.toValue_eq_mapping]
    unfold tagged
    simp only [entries?, Json.lookup?_collapse]
    cases found : lastOf? name entries with
    | none => exact .fail (by simp) _
    | some item =>
      cases item with
      | str tag =>
        cases byTag : variant? tag with
        | none => simpa [byTag, Json.toValue] using Checked.Decides.fail (unknown byTag) _
        | some build =>
          simpa [byTag, Json.toValue, Checked.inside] using (known byTag found).under (.name tag)
      | null | bool | int | float | arr | obj => exact .fail (by simp) _
  | null | bool | int | float | str | arr => exact noObject _ nofun

end Validation

end Transcript
