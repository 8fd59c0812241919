import Transcript.Store.Table

namespace Transcript

theorem Value.sameKey_str {key : Value} {text : String} :
    key.sameKey (.str text) = true ↔ key = .str text := by
  cases key <;> simp [sameKey, integer?]

theorem Value.str_sameKey (text : String) (key : Value) :
    (Value.str text).sameKey key = key.sameKey (.str text) := by
  cases key <;> simp [sameKey, integer?, Bool.beq_eq_decide_eq, eq_comm]

namespace Store

variable {join : String → String → Option String}

/-- The row of a present key after a further write, if the documents can be joined. -/
def Row.mergeWith (join : String → String → Option String) (present new : Row) : Option Row :=
  (join present.document new.document).map fun document =>
    { present with
      promptId := new.promptId
      sessionId := new.sessionId
      writtenAt := new.writtenAt
      document }

/-- Write a row: a new key is added, a present one takes the write up if it can. -/
def upsertWith (join : String → String → Option String) (table : Table) (row : Row) :
    Option Table :=
  if table.any fun present => present.sameDocument row then
    table.mapM fun present =>
      if present.sameDocument row then present.mergeWith join row else some present
  else some (table ++ [row])

def appended (first second : String) : Option String := some (appendDocument first second)

/-- The table that appends documents as texts is one of these. -/
theorem upsertWith_appended (table : Table) (row : Row) :
    upsertWith appended table row = some (upsert table row) := by
  unfold upsertWith upsert
  split
  · have merged : (fun present : Row =>
          if present.sameDocument row then present.mergeWith appended row else some present) =
        fun present => some (if present.sameDocument row then present.merge row else present) := by
      funext present
      split <;> rfl
    rw [merged]
    exact List.mapM_pure
  · rfl

/-- A change that leaves the keys alone leaves the row that is looked for in its place. -/
theorem find?_mapM {change : Row → Option Row} {wanted : Row → Bool}
    (keeps : ∀ row after, change row = some after → wanted after = wanted row)
    {table next : Table} (changed : table.mapM change = some next) :
    match table.find? wanted with
    | some row => ∃ after, change row = some after ∧ next.find? wanted = some after
    | none => next.find? wanted = none := by
  induction table generalizing next with
  | nil =>
    cases changed
    rfl
  | cons row rest ih =>
    simp only [List.mapM_cons, Option.bind_eq_bind, Option.bind_eq_some_iff] at changed
    obtain ⟨after, first, others, later, same⟩ := changed
    cases same
    by_cases here : wanted row
    · have found : wanted after = true := by rw [keeps row after first, here]
      simp [here, found, first]
    · have elsewhere : wanted after = false := by
        rw [keeps row after first]
        simpa using here
      simpa [here, elsewhere] using ih later

def Row.isUnder (thread checkpoint : String) (row : Row) : Bool :=
  row.threadId.sameKey (.str thread) && row.checkpointId.sameKey (.str checkpoint)

theorem Row.isUnder_iff {thread checkpoint : String} {row : Row} :
    row.isUnder thread checkpoint = true ↔
      row.threadId = .str thread ∧ row.checkpointId = .str checkpoint := by
  simp [isUnder, Value.sameKey_str]

theorem Row.sameDocument_eq {thread checkpoint : String} {row : Row}
    (under : row.isUnder thread checkpoint = true) (present : Row) :
    present.sameDocument row = present.isUnder thread checkpoint := by
  obtain ⟨threadId, checkpointId⟩ := isUnder_iff.mp under
  rw [sameDocument, isUnder, threadId, checkpointId]

theorem Row.isUnder_sameDocument {thread checkpoint : String} {present : Row}
    (under : present.isUnder thread checkpoint = true) (row : Row) :
    present.sameDocument row = row.isUnder thread checkpoint := by
  obtain ⟨threadId, checkpointId⟩ := isUnder_iff.mp under
  rw [sameDocument, isUnder, threadId, checkpointId, Value.str_sameKey, Value.str_sameKey]

theorem upsertWith_eq_some {table next : Table} {row : Row}
    (taken : upsertWith join table row = some next) :
    (∃ present ∈ table, present.sameDocument row = true) ∧
      (table.mapM fun present =>
        if present.sameDocument row then present.mergeWith join row else some present) = some next ∨
    (∀ present ∈ table, present.sameDocument row = false) ∧ next = table ++ [row] := by
  unfold upsertWith at taken
  split at taken
  · rename_i any
    exact .inl ⟨List.any_eq_true.mp any, taken⟩
  · rename_i none
    cases taken
    exact .inr ⟨by simpa using none, rfl⟩

theorem Row.isUnder_of_change {row present after : Row} (thread checkpoint : String)
    (changed : (if present.sameDocument row then present.mergeWith join row else some present) =
      some after) :
    after.isUnder thread checkpoint = present.isUnder thread checkpoint := by
  split at changed
  · obtain ⟨document, _, rfl⟩ := Option.map_eq_some_iff.mp changed
    rfl
  · cases changed
    rfl

/-- The row under a key after a write to it, if the documents can be joined. -/
def Row.placeWith (join : String → String → Option String) (present : Option Row) (row : Row) :
    Option Row :=
  match present with
  | some present => present.mergeWith join row
  | none => some row

/-- A write merges into the row of its key, or adds it. -/
theorem find?_upsertWith {table next : Table} {row : Row} {thread checkpoint : String}
    (under : row.isUnder thread checkpoint = true) (taken : upsertWith join table row = some next) :
    ∃ after, Row.placeWith join (find? table (.str thread) (.str checkpoint)) row = some after ∧
      find? next (.str thread) (.str checkpoint) = some after := by
  change ∃ after,
    Row.placeWith join (table.find? (Row.isUnder thread checkpoint)) row = some after ∧
    next.find? (Row.isUnder thread checkpoint) = some after
  have same := Row.sameDocument_eq under
  rcases upsertWith_eq_some taken with ⟨⟨present, member, here⟩, changed⟩ | ⟨none, rfl⟩
  · have found := find?_mapM (fun _ _ => Row.isUnder_of_change thread checkpoint) changed
    cases first : table.find? (Row.isUnder thread checkpoint) with
    | none =>
      have absent := List.find?_eq_none.mp first present member
      exact absurd (same present ▸ here) absent
    | some other =>
      have there : other.isUnder thread checkpoint = true := List.find?_some first
      simpa [first, same, there, Row.placeWith] using found
  · have absent : table.find? (Row.isUnder thread checkpoint) = Option.none := by
      rw [List.find?_eq_none]
      intro present member
      simp [← same, none present member]
    exact ⟨row, by rw [absent]; rfl, by simp [List.find?_append, absent, under]⟩

/-- A write leaves the rows of other keys alone. -/
theorem find?_upsertWith_other {table next : Table} {row : Row} {thread checkpoint : String}
    (other : row.isUnder thread checkpoint = false)
    (taken : upsertWith join table row = some next) :
    find? next (.str thread) (.str checkpoint) = find? table (.str thread) (.str checkpoint) := by
  change next.find? (Row.isUnder thread checkpoint) = table.find? (Row.isUnder thread checkpoint)
  rcases upsertWith_eq_some taken with ⟨_, changed⟩ | ⟨_, rfl⟩
  · have found := find?_mapM (fun _ _ => Row.isUnder_of_change thread checkpoint) changed
    cases first : table.find? (Row.isUnder thread checkpoint) with
    | none => simpa [first] using found
    | some present =>
      have here : present.isUnder thread checkpoint = true := List.find?_some first
      simpa [first, Row.isUnder_sameDocument here, other] using found
  · simp [List.find?_append, other]

end Store

end Transcript
