import Transcript.Proofs.Store.Recording

namespace Transcript.Store

variable {join : String → String → Option String}
variable {α : Type} {reads : String → List α → Prop} {item : Json → α}

/-- The items in the document of a row; where there is no row, there are none. -/
def Holds (reads : String → List α → Prop) : Option Row → List α → Prop
  | some row, items => reads row.document items
  | none, items => items = []

def itemsOf (item : Json → α) (writes : List Write) : List α :=
  writes.flatMap fun write => (batchItems write.batch).map item

/-- What stands under a key is what stood there before, with some writes on top: their items
follow the old ones, the last of them says who wrote and when, and the task path stays that
of the row that was there first. -/
structure Reflects (reads : String → List α → Prop) (item : Json → α) (before : Option Row)
    (writes : List Write) (after : Option Row) : Prop where
  document : ∀ items, Holds reads before items → Holds reads after (items ++ itemsOf item writes)
  unchanged : writes = [] → after = before
  latest : ∀ last, writes.getLast? = some last → ∃ row, after = some row ∧
    row.promptId = last.identity.promptId ∧ row.sessionId = last.identity.sessionId ∧
    row.writtenAt = last.row.writtenAt
  taskPath : ∀ row, after = some row → some row.taskPath =
    (before.map Row.taskPath).or (writes.head?.map fun write => write.row.taskPath)

theorem Reflects.nil (row : Option Row) : Reflects reads item row [] row where
  document items holds := by simpa [itemsOf] using holds
  unchanged _ := rfl
  latest last found := by simp at found
  taskPath row here := by simp [here]

theorem Reflects.of_none {before : Option Row} {writes : List Write}
    (reflects : Reflects reads item before writes none) : before = none ∧ writes = [] := by
  cases last : writes.getLast? with
  | none =>
    have none := List.getLast?_eq_none_iff.mp last
    exact ⟨(reflects.unchanged none).symm, none⟩
  | some write =>
    obtain ⟨row, absent, _⟩ := reflects.latest write last
    cases absent

theorem Reflects.snoc
    (written : ∀ documents, reads (Json.render .stored (.arr documents)) (documents.map item))
    (joined : ∀ {first second both left right}, join first second = some both →
      reads first left → reads second right → reads both (left ++ right))
    {before after : Option Row} {writes : List Write} {write : Write} {row : Row}
    (reflects : Reflects reads item before writes after)
    (records : write.row.Records write.batch write.identity)
    (placed : Row.placeWith join after write.row = some row) :
    Reflects reads item before (writes ++ [write]) (some row) := by
  have brought : reads write.row.document ((batchItems write.batch).map item) :=
    records.document ▸ written _
  have grown (items : List α) : items ++ itemsOf item (writes ++ [write]) =
      (items ++ itemsOf item writes) ++ (batchItems write.batch).map item := by
    simp [itemsOf]
  have nonempty : writes ++ [write] ≠ [] := by simp
  cases after with
  | none =>
    cases placed
    obtain ⟨rfl, rfl⟩ := reflects.of_none
    refine ⟨?_, fun none => absurd none nonempty, ?_, ?_⟩
    · intro items holds
      rw [grown, show items = [] from holds]
      exact brought
    · intro last found
      cases found
      exact ⟨_, rfl, records.promptId, records.sessionId, rfl⟩
    · intro row here
      cases here
      rfl
  | some present =>
    obtain ⟨document, merged, rfl⟩ := Option.map_eq_some_iff.mp placed
    refine ⟨?_, fun none => absurd none nonempty, ?_, ?_⟩
    · intro items holds
      rw [grown]
      exact joined merged (reflects.document items holds) brought
    · intro last found
      rw [List.getLast?_append_of_ne_nil _ (by simp)] at found
      cases found
      exact ⟨_, rfl, records.promptId, records.sessionId, rfl⟩
    · intro row here
      cases here
      have taskPath := reflects.taskPath present rfl
      cases before <;> cases writes <;> simp_all

end Transcript.Store
