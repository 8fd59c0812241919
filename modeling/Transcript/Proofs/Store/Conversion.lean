import Transcript.Proofs.Json.Writing
import Transcript.Proofs.Store.Recording

/-! A database that converts documents to a type of its own before it puts two of them together.
The first document under a key is stored as it comes, and only the writes behind it convert it;
so what is stored first decides whether anything can follow. -/

namespace Transcript

namespace Json

theorem textWithoutNul_textWithoutNul (text : String) :
    textWithoutNul (textWithoutNul text) = textWithoutNul text := by
  simp [textWithoutNul, List.filter_filter]

mutual
theorem withoutNul_withoutNul : (document : Json) →
    document.withoutNul.withoutNul = document.withoutNul
  | .null | .bool _ | .int _ | .float _ => rfl
  | .str text => congrArg Json.str (textWithoutNul_textWithoutNul text)
  | .arr items => congrArg Json.arr (withoutNulItems_withoutNulItems items)
  | .obj entries => congrArg Json.obj (withoutNulEntries_withoutNulEntries entries)

theorem withoutNulItems_withoutNulItems : (items : List Json) →
    withoutNulItems (withoutNulItems items) = withoutNulItems items
  | [] => rfl
  | item :: rest =>
    congrArg₂ List.cons (withoutNul_withoutNul item) (withoutNulItems_withoutNulItems rest)

theorem withoutNulEntries_withoutNulEntries : (entries : List (String × Json)) →
    withoutNulEntries (withoutNulEntries entries) = withoutNulEntries entries
  | [] => rfl
  | (key, item) :: rest =>
    congrArg₂ List.cons
      (congrArg₂ Prod.mk (textWithoutNul_textWithoutNul key) (withoutNul_withoutNul item))
      (withoutNulEntries_withoutNulEntries rest)
end

theorem word?_withoutNul {chars : List Char} {document : Json}
    (read : word? chars = some document) : document.withoutNul = document := by
  refine word?_induction ?_ ?_ ?_ ?_ read
  all_goals intros; rfl

mutual
theorem withoutNul_asRead (layout : Layout) : (document : Json) →
    (layout.asRead document).withoutNul = layout.asRead document.withoutNul
  | .null | .bool _ | .int _ | .str _ => rfl
  | .float number => by
    change ((word? (layout.floatChars number)).getD .null).withoutNul =
      (word? (layout.floatChars number)).getD .null
    cases read : word? (layout.floatChars number) with
    | none => rfl
    | some document => exact word?_withoutNul read
  | .arr items => congrArg Json.arr (withoutNul_itemsAsRead layout items)
  | .obj entries => congrArg Json.obj (withoutNul_entriesAsRead layout entries)

theorem withoutNul_itemsAsRead (layout : Layout) : (items : List Json) →
    withoutNulItems (layout.itemsAsRead items) = layout.itemsAsRead (withoutNulItems items)
  | [] => rfl
  | item :: rest =>
    congrArg₂ List.cons (withoutNul_asRead layout item) (withoutNul_itemsAsRead layout rest)

theorem withoutNul_entriesAsRead (layout : Layout) : (entries : List (String × Json)) →
    withoutNulEntries (layout.entriesAsRead entries) =
      layout.entriesAsRead (withoutNulEntries entries)
  | [] => rfl
  | (key, item) :: rest =>
    congrArg₂ List.cons (congrArg (Prod.mk (textWithoutNul key)) (withoutNul_asRead layout item))
      (withoutNul_entriesAsRead layout rest)
end

end Json

namespace Store

open Json

/-- A text that the database converts: a JSON text without an escape for U+0000, which is the
only way in which a JSON text can spell that character. -/
structure Convertible (text : String) (document : Json) : Prop where
  spelled : Spells ⊤ text.toList document
  withoutNul : document.withoutNul = document

theorem convertible_render {document : Json} (clean : document.withoutNul = document) :
    Convertible (Json.render .stored document) (Layout.stored.asRead document) where
  spelled := Layout.spells_render document
  withoutNul := by rw [withoutNul_asRead, clean]

theorem batchItems_withoutNul (batch : List Message) :
    withoutNulItems (batchItems batch) = batchItems batch := by
  unfold batchItems
  split
  · exact withoutNulItems_withoutNulItems _
  · rfl

theorem convertible_document (job : WriteJob) (desk : Desk) :
    ∃ items, Convertible (job.prepareRow desk).1.document (.arr items) := by
  have clean : Json.withoutNul (.arr (batchItems job.batch)) = .arr (batchItems job.batch) :=
    congrArg Json.arr (batchItems_withoutNul job.batch)
  rw [(job.prepareRow_records desk).document]
  exact ⟨_, convertible_render clean⟩

/-- The type of documents that the database has of its own: how a text is converted to it, how
two of its values are put together, and how one is shown as a text. -/
structure Jsonb (β : Type) where
  ofText : String → Option β
  append : β → β → β
  toText : β → String
  isArray : β → Bool

namespace Jsonb

variable {β : Type}

/-- What the database promises of its documents. -/
structure IsLawful (jsonb : Jsonb β) : Prop where
  accepts : ∀ text, (jsonb.ofText text).isSome ↔ ∃ document, Convertible text document
  array : ∀ {text items value}, Convertible text (.arr items) → jsonb.ofText text = some value →
    jsonb.isArray value = true
  append : ∀ {left right}, jsonb.isArray left = true → jsonb.isArray right = true →
    jsonb.isArray (jsonb.append left right) = true
  shown : ∀ {value}, jsonb.isArray value = true →
    ∃ items, Convertible (jsonb.toText value) (.arr items)

/-- The document of two: both are converted, put together and shown. -/
def join (jsonb : Jsonb β) (first second : String) : Option String := do
  let left ← jsonb.ofText first
  let right ← jsonb.ofText second
  return jsonb.toText (jsonb.append left right)

variable {jsonb : Jsonb β}

theorem IsLawful.ofText_array (lawful : jsonb.IsLawful) {text : String} {items : List Json}
    (convertible : Convertible text (.arr items)) :
    ∃ value, jsonb.ofText text = some value ∧ jsonb.isArray value = true := by
  obtain ⟨value, converted⟩ :=
    Option.isSome_iff_exists.mp ((lawful.accepts text).mpr ⟨_, convertible⟩)
  exact ⟨value, converted, lawful.array convertible converted⟩

theorem IsLawful.join_arrays (lawful : jsonb.IsLawful) {first second : String}
    {left right : List Json} (here : Convertible first (.arr left))
    (there : Convertible second (.arr right)) :
    ∃ both items, jsonb.join first second = some both ∧ Convertible both (.arr items) := by
  obtain ⟨value, converted, isArray⟩ := lawful.ofText_array here
  obtain ⟨other, convertedOther, isArrayOther⟩ := lawful.ofText_array there
  obtain ⟨items, shown⟩ := lawful.shown (lawful.append isArray isArrayOther)
  refine ⟨_, items, ?_, shown⟩
  simp [join, converted, convertedOther]

end Jsonb

/-- A mishap of the database in a write, apart from its documents; the row may be in the table
all the same. -/
structure Mishap where
  breakdown : Breakdown
  kept : Bool
deriving DecidableEq, Repr

/-- How a write ends whose documents can be put together. -/
def Mishap.outcome : Option Mishap → Except Breakdown Unit
  | none => .ok ()
  | some mishap => .error mishap.breakdown

/-- The mishap that the outages of a database come to. -/
def Database.mishap? (database : Database) : Option Mishap :=
  match database.check .connection, database.check .insert, database.check .commit with
  | .error breakdown, _, _ | .ok (), .error breakdown, _ => some ⟨breakdown, false⟩
  | .ok (), .ok (), .error breakdown => some ⟨breakdown, true⟩
  | .ok (), .ok (), .ok () => none

/-- How a database reports documents that it cannot put together. -/
def refusal : Breakdown := ⟨.insert, .operational⟩

/-- What a database answers to a row, and its table afterwards. -/
def answer (join : String → String → Option String) (mishap : Option Mishap) (table : Table)
    (row : Row) : Except Breakdown Unit × Table :=
  if mishap.any fun mishap => !mishap.kept then (Mishap.outcome mishap, table)
  else match upsertWith join table row with
    | some next => (Mishap.outcome mishap, next)
    | none => (.error refusal, table)

/-- Write a batch at once to a table whose documents are put together in some way. -/
def WriteJob.writeWith (join : String → String → Option String) (job : WriteJob)
    (mishap : Option Mishap) (office : Office Table) : Except Breakdown Bool × Office Table :=
  if job.batch.isEmpty then (.ok true, office)
  else
    let (row, desk) := job.prepareRow office.desk
    let (outcome, store) := answer join mishap office.store row
    job.conclude row outcome { desk, store }

/-- The office that only sees the table of its database. -/
def tableOffice (office : Office Database) : Office Table := ⟨office.desk, office.store.table⟩

theorem Database.write_answer (database : Database) (sql : String) (row : Row) :
    ((database.write sql row).1, (database.write sql row).2.table) =
      answer appended database.mishap? database.table row := by
  unfold write mishap? answer
  cases connection : database.check .connection with
  | error breakdown => rfl
  | ok =>
    unfold insert
    simp only [arrive_check]
    cases statement : database.check .insert with
    | error breakdown => rfl
    | ok =>
      have last (table : Table) : Database.check
          { database.arrive ⟨sql, row.values⟩ with table } .commit = database.check .commit := rfl
      simp only [upsertWith_appended, commit, last]
      cases database.check .commit <;> rfl

theorem WriteJob.conclude_tableOffice (job : WriteJob) (row : Row)
    (outcome : Except Breakdown Unit) (office : Office Database) :
    ((job.conclude row outcome office).1, tableOffice (job.conclude row outcome office).2) =
      job.conclude row outcome (tableOffice office) := by
  unfold conclude
  cases outcome with
  | ok => rfl
  | error breakdown =>
    obtain ⟨site, outage⟩ := breakdown
    cases outage <;> rfl

/-- The writes of the store are these writes, with documents that are put together as texts. -/
theorem WriteJob.run_eq_writeWith (job : WriteJob) (office : Office Database) :
    ((job.run office).1, tableOffice (job.run office).2) =
      job.writeWith appended office.store.mishap? (tableOffice office) := by
  unfold run writeWith
  split
  · rfl
  · have answered := Database.write_answer office.store (upsertStatement job.schema)
      (job.prepareRow office.desk).1
    have concluded := job.conclude_tableOffice (job.prepareRow office.desk).1
      (office.store.write (upsertStatement job.schema) (job.prepareRow office.desk).1).1
      ⟨(job.prepareRow office.desk).2,
        (office.store.write (upsertStatement job.schema) (job.prepareRow office.desk).1).2⟩
    simp only [tableOffice] at answered concluded ⊢
    rw [← answered]
    exact concluded

def writeAll (join : String → String → Option String) (calls : List (WriteJob × Option Mishap))
    (office : Office Table) : Office Table :=
  calls.foldl (fun office call => (call.1.writeWith join call.2 office).2) office

/-- Every document of a table is an array that can be converted. -/
def Unpoisoned (table : Table) : Prop :=
  ∀ row ∈ table, ∃ items, Convertible row.document (.arr items)

theorem mapM_of_forall {good : Row → Prop} {change : Row → Option Row} {table : Table}
    (each : ∀ row ∈ table, ∃ after, change row = some after ∧ good after) :
    ∃ next, table.mapM change = some next ∧ ∀ row ∈ next, good row := by
  induction table with
  | nil => exact ⟨[], rfl, by simp⟩
  | cons row rest ih =>
    obtain ⟨after, changed, isGood⟩ := each row List.mem_cons_self
    obtain ⟨others, later, areGood⟩ := ih fun row member => each row (List.mem_cons_of_mem _ member)
    refine ⟨after :: others, ?_, ?_⟩
    · simp [List.mapM_cons, changed, later]
    · intro row member
      rcases List.mem_cons.mp member with rfl | member
      · exact isGood
      · exact areGood row member

/-- A table whose documents stand in the way of no write. -/
structure Jsonb.Serves {β : Type} (jsonb : Jsonb β) (table : Table) : Prop where
  /-- What is stored is the text of an array, and can be converted. -/
  stored : ∀ row ∈ table, (∃ items, Convertible row.document (.arr items)) ∧
    (jsonb.ofText row.document).isSome
  /-- What a batch brings can be converted. -/
  brought : ∀ (job : WriteJob) desk, (jsonb.ofText (job.prepareRow desk).1.document).isSome
  /-- Whatever goes wrong with a row is a mishap of the database itself. -/
  answered : ∀ (job : WriteJob) desk mishap,
    (answer jsonb.join mishap table (job.prepareRow desk).1).1 = Mishap.outcome mishap
  /-- Where nothing goes wrong, a batch is written. -/
  written : ∀ (job : WriteJob) desk,
    (job.writeWith jsonb.join none { desk, store := table }).1 = .ok true

section Writes

variable {β : Type} {jsonb : Jsonb β} (lawful : jsonb.IsLawful)
include lawful

/-- A row with a convertible document can always be written, and poisons nothing. -/
theorem Unpoisoned.upsert {table : Table} (unpoisoned : Unpoisoned table) {row : Row}
    {items : List Json} (convertible : Convertible row.document (.arr items)) :
    ∃ next, upsertWith jsonb.join table row = some next ∧ Unpoisoned next := by
  unfold upsertWith
  split
  · apply mapM_of_forall
    intro present member
    obtain ⟨before, here⟩ := unpoisoned present member
    split
    · obtain ⟨both, merged, joined, after⟩ := lawful.join_arrays here convertible
      exact ⟨{ present with
        promptId := row.promptId
        sessionId := row.sessionId
        writtenAt := row.writtenAt
        document := both }, by simp [Row.mergeWith, joined], merged, after⟩
    · exact ⟨present, rfl, before, here⟩
  · refine ⟨_, rfl, ?_⟩
    intro present member
    rcases List.mem_append.mp member with old | new
    · exact unpoisoned present old
    · rw [List.mem_singleton.mp new]
      exact ⟨items, convertible⟩

/-- Whatever goes wrong in a write is a mishap of the database, and none of its documents. -/
theorem Unpoisoned.answer {table : Table} (unpoisoned : Unpoisoned table) (job : WriteJob)
    (desk : Desk) (mishap : Option Mishap) :
    (answer jsonb.join mishap table (job.prepareRow desk).1).1 = Mishap.outcome mishap ∧
      Unpoisoned (answer jsonb.join mishap table (job.prepareRow desk).1).2 := by
  obtain ⟨items, convertible⟩ := convertible_document job desk
  obtain ⟨next, taken, after⟩ := unpoisoned.upsert lawful convertible
  unfold Store.answer
  split
  · exact ⟨rfl, unpoisoned⟩
  · rw [taken]
    exact ⟨rfl, after⟩

theorem Unpoisoned.writeWith {office : Office Table} (unpoisoned : Unpoisoned office.store)
    (job : WriteJob) (mishap : Option Mishap) :
    Unpoisoned (job.writeWith jsonb.join mishap office).2.store := by
  unfold WriteJob.writeWith
  split
  · exact unpoisoned
  · rw [WriteJob.conclude_store]
    exact (unpoisoned.answer lawful job office.desk mishap).2

theorem unpoisoned_writeAll (calls : List (WriteJob × Option Mishap)) {office : Office Table}
    (unpoisoned : Unpoisoned office.store) :
    Unpoisoned (writeAll jsonb.join calls office).store := by
  induction calls generalizing office with
  | nil => exact unpoisoned
  | cons call rest ih => exact ih (unpoisoned.writeWith lawful call.1 call.2)

/-- Whatever batches were written to a table that was empty at first, every document in it is a
JSON text of an array that the database can convert, and so is the document of any batch; so every
further write to any key succeeds unless the database fails for a reason of its own. -/
theorem no_document_is_poisoned (desk : Desk) (calls : List (WriteJob × Option Mishap)) :
    jsonb.Serves (writeAll jsonb.join calls { desk, store := [] }).store := by
  have unpoisoned : Unpoisoned (writeAll jsonb.join calls { desk, store := [] }).store := by
    apply unpoisoned_writeAll lawful
    intro row member
    cases member
  refine ⟨?_, ?_, ?_, ?_⟩
  · intro row member
    obtain ⟨items, convertible⟩ := unpoisoned row member
    exact ⟨⟨items, convertible⟩, (lawful.accepts _).mpr ⟨_, convertible⟩⟩
  · intro job later
    obtain ⟨items, convertible⟩ := convertible_document job later
    exact (lawful.accepts _).mpr ⟨_, convertible⟩
  · intro job later mishap
    exact (unpoisoned.answer lawful job later mishap).1
  · intro job later
    have outcome := (unpoisoned.answer lawful job later none).1
    unfold WriteJob.writeWith
    split
    · rfl
    · simp only [outcome]
      rfl

end Writes

/-- The items of an array; anything else counts as the one item of an array. -/
def elements : Json → List Json
  | .arr items => items
  | document => [document]

open Classical in
/-- Texts are converted to the documents that they spell. -/
noncomputable def spelledDocuments : Jsonb Json where
  ofText text :=
    if array : ∃ items, Convertible text (.arr items) then some (.arr array.choose)
    else if other : ∃ document, Convertible text document then some other.choose
    else none
  append left right := .arr (elements left ++ elements right)
  toText document := Json.render .stored document.withoutNul
  isArray
    | .arr _ => true
    | _ => false

theorem spelledDocuments_isLawful : spelledDocuments.IsLawful where
  accepts text := by
    unfold spelledDocuments
    by_cases array : ∃ items, Convertible text (.arr items)
    · obtain ⟨items, convertible⟩ := array
      simp only [dif_pos (⟨items, convertible⟩ : ∃ items, Convertible text (.arr items)),
        Option.isSome_some, true_iff]
      exact ⟨_, convertible⟩
    · by_cases other : ∃ document, Convertible text document
      · simp [array, other]
      · simp [array, other]
  array := by
    intro text items value convertible converted
    have array : ∃ items, Convertible text (.arr items) := ⟨items, convertible⟩
    simp only [spelledDocuments, dif_pos array, Option.some.injEq] at converted
    rw [← converted]
    rfl
  append _ _ := rfl
  shown := by
    intro value isArray
    cases value with
    | arr items => exact ⟨_, convertible_render (withoutNul_withoutNul (.arr items))⟩
    | null | bool | int | float | str | obj => cases isArray

/-- A batch with U+0000 in a text and in a key, and with a float that is no number. -/
def troubled : WriteJob where
  schema := "public"
  batch :=
    [{ content := .text "a\x00b", id := "m", variant := .human
       additional := [("\x00", .float Decimal.notANumber)] }]
  identity := .ofTexts "t" "p" "s" "c"

theorem WriteJob.writeAll_first (job : WriteJob) (some : job.batch ≠ [])
    (join : String → String → Option String) (desk : Desk) :
    (writeAll join [(job, none)] { desk, store := [] }).store = [(job.prepareRow desk).1] := by
  change (job.writeWith join none { desk, store := [] }).2.store = _
  unfold writeWith
  rw [if_neg (by simpa using some), conclude_store]
  rfl

theorem no_document_is_poisoned_troubled :
    spelledDocuments.IsLawful ∧
      (writeAll spelledDocuments.join [(troubled, none)] { store := [] }).store =
        [(troubled.prepareRow {}).1] ∧
      spelledDocuments.Serves
        (writeAll spelledDocuments.join [(troubled, none)] { store := [] }).store := by
  have first := troubled.writeAll_first (by simp [troubled]) spelledDocuments.join {}
  have serves := no_document_is_poisoned spelledDocuments_isLawful {} [(troubled, none)]
  exact ⟨spelledDocuments_isLawful, first, serves⟩

end Store

end Transcript
