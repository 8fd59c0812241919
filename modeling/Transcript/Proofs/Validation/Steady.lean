import Transcript.Proofs.Json.Accepted
import Transcript.Proofs.Json.Collapsed
import Transcript.Proofs.Message.Loading
import Transcript.Proofs.Message.Normal
import Transcript.Proofs.Validation.Handed

/-! Checks that are steady. What such a check gives for a part of a text that was read can be
written and read again, however it was spelled, and the same check of what it is written as gives
it once more. Scalars are steady, and what is put together from steady checks is. -/

namespace Transcript

open Message.Draft (Settles)

/-- A document as it is read and each key left once: no integer is too long, and no more than so
many values stand inside each other. -/
structure Json.IsRead (room : Nat) (document : Json) : Prop where
  once : Json.KeysOnce document
  short : Json.Leaves Json.IsShort document
  shallow : document.depth ≤ room

/-- The value of a document that is read. -/
def Value.IsRead (room : Nat) (value : Value) : Prop :=
  ∃ document : Json, document.IsRead room ∧ value = document.toValue

/-- A shape that is written as a document which can be read, and means the same. -/
def Shape.IsReadable (room : Nat) (shape : Shape) : Prop :=
  ∃ document : Json, Settles Json.Stored.depthLimit shape document ∧ document.IsRead room ∧
    shape.toValue = document.toValue

namespace Json

variable {room : Nat}

theorem IsLeaf.isRead {document : Json} (leaf : document.IsLeaf) (short : document.IsShort)
    (ample : 1 ≤ room) : document.IsRead room where
  once := leaf.keysOnce
  short := by cases document <;> first | exact short | exact leaf.elim
  shallow := leaf.depth_eq ▸ ample

theorem depth_le_of_item {items : List Json} {item : Json} (member : item ∈ items) :
    item.depth ≤ itemsDepth items := by
  induction items with
  | nil => cases member
  | cons first rest ih =>
    rw [itemsDepth]
    rcases List.mem_cons.mp member with rfl | later
    · exact Nat.le_max_left _ _
    · exact Nat.le_trans (ih later) (Nat.le_max_right _ _)

theorem IsRead.item {items : List Json} (read : (Json.arr items).IsRead (room + 1)) {item : Json}
    (member : item ∈ items) : item.IsRead room where
  once := itemsKeysOnce_iff.mp read.once item member
  short := itemLeaves_iff.mp read.short item member
  shallow := Nat.le_trans (depth_le_of_item member) (Nat.le_of_succ_le_succ read.shallow)

theorem isRead_arr {items : List Json} (each : ∀ item ∈ items, item.IsRead room) :
    (Json.arr items).IsRead (room + 1) where
  once := itemsKeysOnce_iff.mpr fun item member => (each item member).once
  short := itemLeaves_iff.mpr fun item member => (each item member).short
  shallow := Nat.succ_le_succ (itemsDepth_le fun item member => (each item member).shallow)

theorem IsRead.entry {entries : List (String × Json)} (read : (Json.obj entries).IsRead (room + 1))
    {key : String} {item : Json} (member : (key, item) ∈ entries) : item.IsRead room where
  once := entriesKeysOnce_iff.mp read.once.2 _ member
  short := entryLeaves_iff.mp read.short _ member
  shallow := Nat.le_trans (depth_le_of_member member) (Nat.le_of_succ_le_succ read.shallow)

theorem isRead_obj {entries : List (String × Json)} (once : (entries.map Prod.fst).Nodup)
    (each : ∀ entry ∈ entries, entry.2.IsRead room) : (Json.obj entries).IsRead (room + 1) where
  once := ⟨once, entriesKeysOnce_iff.mpr fun entry member => (each entry member).once⟩
  short := entryLeaves_iff.mpr fun entry member => (each entry member).short
  shallow := Nat.succ_le_succ (entriesDepth_le fun entry member => (each entry member).shallow)

mutual
/-- What was read is given back by the characters of its stored document, unless it holds a float
that is no number. -/
theorem givesBack_of_isNumber : (document : Json) → Leaves IsShort document →
    Leaves IsNumber document → Leaves Layout.stored.GivesBack document
  | .null, _, _ | .bool _, _, _ | .str _, _, _ => ⟨trivial, rfl⟩
  | .int number, short, _ => by
    have within : (Nat.toDigits 10 number.natAbs).length ≤ Decimal.integerLimit :=
      of_decide_eq_true short
    exact ⟨Nat.cast_le.mpr within, rfl⟩
  | .float _, _, finite => Layout.stored_givesBack_float finite
  | .arr items, short, numbers => itemsGiveBack items short numbers
  | .obj entries, short, numbers => entriesGiveBack entries short numbers

theorem itemsGiveBack : (items : List Json) → ItemLeaves IsShort items →
    ItemLeaves IsNumber items → ItemLeaves Layout.stored.GivesBack items
  | [], _, _ => trivial
  | item :: rest, short, numbers =>
    ⟨givesBack_of_isNumber item short.1 numbers.1, itemsGiveBack rest short.2 numbers.2⟩

theorem entriesGiveBack : (entries : List (String × Json)) → EntryLeaves IsShort entries →
    EntryLeaves IsNumber entries → EntryLeaves Layout.stored.GivesBack entries
  | [], _, _ => trivial
  | (_, item) :: rest, short, numbers =>
    ⟨givesBack_of_isNumber item short.1 numbers.1, entriesGiveBack rest short.2 numbers.2⟩
end

theorem isRead_collapsed {limit : Nat} {text : String} {document : Json}
    (read : read? limit text = some document) : document.collapsed.IsRead (limit + 1) where
  once := keysOnce_collapsed document
  short := leaves_collapsed document (isShort_of_read? read)
  shallow := Nat.le_trans (depth_collapsed_le document) (read?_eq_some read).2

end Json

namespace Shape

variable {room : Nat}

theorem isReadable_plain {document : Json} (read : document.IsRead room) :
    (Shape.plain document).IsReadable room :=
  ⟨document, Message.Draft.settles_plain document, read, rfl⟩

theorem isReadable_leaf {document : Json} (leaf : document.IsLeaf) (short : document.IsShort)
    (ample : 1 ≤ room) : (Shape.plain document).IsReadable room :=
  isReadable_plain (leaf.isRead short ample)

theorem isReadable_free {value : Value} (read : value.IsRead room)
    (enough : room ≤ Json.Stored.depthLimit) : (Shape.free value).IsReadable room := by
  obtain ⟨document, read, rfl⟩ := read
  have written := Json.Stored.encode_toValue document Json.Stored.depthLimit read.once
    (Nat.le_trans read.shallow enough)
  exact ⟨document, ⟨rfl, written⟩, read, rfl⟩

theorem isReadable_mapping {entries : List (String × Json)} (read : (Json.obj entries).IsRead room)
    (enough : room ≤ Json.Stored.depthLimit) :
    (Shape.ofMapping (Json.toMapping entries)).IsReadable room := by
  refine ⟨.obj entries, ?_, read, ?_⟩
  · exact Message.Draft.settles_mapping read.once (Nat.le_trans read.shallow enough)
  · rw [Json.toValue_obj read.once.1]
    rfl

theorem isReadable_list {shapes : List Shape} (each : ∀ shape ∈ shapes, shape.IsReadable room) :
    (Shape.list shapes).IsReadable (room + 1) := by
  have together : ∃ documents, List.Forall₂ (Settles Json.Stored.depthLimit) shapes documents ∧
      (∀ document ∈ documents, document.IsRead room) ∧
      toValues shapes = Json.toValues documents := by
    induction shapes with
    | nil => exact ⟨[], .nil, nofun, rfl⟩
    | cons shape rest ih =>
      obtain ⟨⟨document, settles, read, value⟩, later⟩ := List.forall_mem_cons.mp each
      obtain ⟨documents, others, reads, values⟩ := ih later
      exact ⟨document :: documents, .cons settles others,
        List.forall_mem_cons.mpr ⟨read, reads⟩, congrArg₂ List.cons value values⟩
  obtain ⟨documents, settles, reads, values⟩ := together
  exact ⟨.arr documents, Message.Draft.settles_list settles, Json.isRead_arr reads,
    congrArg Value.list values⟩

theorem isReadable_record {fields : List (String × Shape)} (once : (fields.map Prod.fst).Nodup)
    (each : ∀ field ∈ fields, field.2.IsReadable room) :
    (Shape.record fields).IsReadable (room + 1) := by
  have together : ∃ entries, Message.Draft.FieldsSettle Json.Stored.depthLimit fields entries ∧
      (∀ entry ∈ entries, entry.2.IsRead room) ∧ entries.map Prod.fst = fields.map Prod.fst ∧
      toMapping fields = Json.toMapping entries := by
    clear once
    induction fields with
    | nil => exact ⟨[], .nil, nofun, rfl, rfl⟩
    | cons field rest ih =>
      obtain ⟨⟨document, settles, read, value⟩, later⟩ := List.forall_mem_cons.mp each
      obtain ⟨entries, others, reads, keys, values⟩ := ih later
      refine ⟨(field.1, document) :: entries, .cons ⟨rfl, settles⟩ others,
        List.forall_mem_cons.mpr ⟨read, reads⟩, congrArg (field.1 :: ·) keys, ?_⟩
      exact congrArg₂ List.cons (congrArg (Prod.mk field.1) value) values
  obtain ⟨entries, settles, reads, keys, values⟩ := together
  rw [← keys] at once
  refine ⟨.obj entries, Message.Draft.settles_record settles, Json.isRead_obj once reads, ?_⟩
  rw [Json.toValue_obj once, toValue, values]

theorem IsReadable.choice {form : Shape} (readable : form.IsReadable room)
    (enough : room ≤ Json.Stored.depthLimit) : (Shape.choice form).IsReadable room := by
  obtain ⟨document, settles, read, value⟩ := readable
  have written := settles.choice read.once (Nat.le_trans read.shallow enough)
  exact ⟨document, ⟨settles.fits, written⟩, read, value⟩

end Shape

namespace Validation

variable {α β : Type} {room : Nat}

/-- A result that can be written and read, and comes again from what it is written as. -/
structure Keeps (room : Nat) (check : Value → Checked α) (shape : α → Shape) (result : α) :
    Prop where
  readable : (shape result).IsReadable room
  again : check (shape result).toValue = .valid result

/-- A check keeps whatever it accepts of what is read. -/
def Steady (room : Nat) (check : Value → Checked α) (shape : α → Shape) : Prop :=
  ∀ ⦃input result⦄, input.IsRead room → check input = .valid result →
    Keeps room check shape result

theorem steady_text (ample : 1 ≤ room) : Steady room text .text :=
  fun _ _ _ _ => ⟨Shape.isReadable_leaf trivial trivial ample, rfl⟩

theorem steady_flag (ample : 1 ≤ room) : Steady room flag .bool :=
  fun _ _ _ _ => ⟨Shape.isReadable_leaf trivial trivial ample, rfl⟩

theorem steady_number (ample : 1 ≤ room) : Steady room (number .document) .float :=
  fun _ _ _ _ => ⟨Shape.isReadable_leaf trivial trivial ample, rfl⟩

theorem steady_named {ofName? : String → Option α} {name : α → String}
    (named : ∀ one, ofName? (name one) = some one) (ample : 1 ≤ room) :
    Steady room (Validation.named ofName?) fun one => .text (name one) := by
  intro input one _ _
  refine ⟨Shape.isReadable_leaf trivial trivial ample, ?_⟩
  change (Checked.ofOption _ (ofName? (name one)) : Checked α) = _
  rw [named]
  rfl

theorem steady_anything (enough : room ≤ Json.Stored.depthLimit) : Steady room anything .free := by
  intro input result read valid
  cases valid
  exact ⟨Shape.isReadable_free read enough, rfl⟩

theorem steady_mapping (enough : room ≤ Json.Stored.depthLimit) :
    Steady room mapping .ofMapping := by
  rintro input result ⟨document, read, rfl⟩ valid
  cases document with
  | obj entries =>
    have loaded := mapping_valid read.once.1
    obtain rfl : Json.toMapping entries = result := by
      rw [loaded] at valid
      cases valid
      rfl
    refine ⟨Shape.isReadable_mapping read enough, ?_⟩
    rw [Json.toValue_obj read.once.1] at loaded
    exact loaded
  | null | bool | int | float | str | arr => cases valid

/-- Integers below this power of ten may be spelled out. -/
theorem isSpellable_of_lt {number : Int} (small : number.natAbs < 10 ^ Decimal.integerLimit) :
    Decimal.isSpellable number = true := by
  have digits := (Nat.length_toDigits_le_iff (by decide) (by decide)).mpr small
  simpa [Decimal.isSpellable] using digits

theorem lt_of_naturalOfDigits {chars : List Char} {number : Nat}
    (valid : naturalOfDigits chars = .valid number) : number < 10 ^ Decimal.integerLimit := by
  unfold naturalOfDigits at valid
  split_ifs at valid with long digits
  · cases valid
  · cases valid
    simp only [Bool.and_eq_true, List.all_eq_true] at digits
    have whole : chars.takeWhile Decimal.isDigit = chars :=
      List.takeWhile_eq_self_iff.mpr digits.2
    rw [whole, Nat.not_lt] at long
    exact Nat.lt_of_lt_of_le (Decimal.digitsValue_lt digits.2)
      (Nat.pow_le_pow_right (by decide) long)
  · cases valid

theorem isSpellable_positive {digits : List Char} {number : Int}
    (valid : positive digits = .valid number) : Decimal.isSpellable number = true := by
  obtain ⟨size, natural, rfl⟩ := Checked.valid_of_map valid
  exact isSpellable_of_lt (lt_of_naturalOfDigits natural)

theorem isSpellable_negative {digits : List Char} {number : Int}
    (valid : negative digits = .valid number) : Decimal.isSpellable number = true := by
  obtain ⟨size, natural, rfl⟩ := Checked.valid_of_map valid
  refine isSpellable_of_lt ?_
  rw [Int.natAbs_neg]
  exact lt_of_naturalOfDigits natural

theorem isSpellable_integerOfText {content : String} {number : Int}
    (valid : integerOfText content = .valid number) : Decimal.isSpellable number = true := by
  have unsigned {chars : List Char} (valid : unsignedInteger chars = .valid number) :
      Decimal.isSpellable number = true := by
    unfold unsignedInteger at valid
    split at valid
    · split at valid
      · exact isSpellable_negative valid
      · cases valid
    · exact isSpellable_positive valid
  unfold integerOfText integerOfChars at valid
  split at valid
  · exact isSpellable_negative valid
  · exact unsigned valid
  · exact unsigned valid

theorem isSpellable_integerOfFloat {number : Float} {whole : Int}
    (valid : integerOfFloat number = .valid whole) : Decimal.isSpellable whole = true := by
  unfold integerOfFloat at valid
  split at valid
  · cases valid
  · split at valid
    · cases valid
    · split at valid
      · rename_i near
        cases valid
        have bound : wordBound ≤ 10 ^ Decimal.integerLimit :=
          Nat.le_trans (show wordBound ≤ 10 ^ 19 by decide)
            (Nat.pow_le_pow_right (by decide) (by decide))
        exact isSpellable_of_lt (Nat.lt_of_lt_of_le near bound)
      · cases valid

theorem steady_integer (ample : 1 ≤ room) : Steady room integer .int := by
  rintro input number ⟨document, read, rfl⟩ valid
  have short : Decimal.isSpellable number = true := by
    cases document with
    | int given =>
      cases valid
      exact read.short
    | bool flag =>
      cases valid
      cases flag <;> decide
    | float given => exact isSpellable_integerOfFloat valid
    | str content => exact isSpellable_integerOfText valid
    | null | arr | obj => cases valid
  exact ⟨Shape.isReadable_leaf trivial short ample, rfl⟩

theorem steady_nullable {check : Value → Checked α} {shape : α → Shape}
    (steady : Steady room check shape) (given : ∀ one, (shape one).toValue ≠ .null)
    (ample : 1 ≤ room) : Steady room (nullable check) (.optional shape) := by
  intro input result read valid
  have other {input : Value} (given : input ≠ .null) :
      nullable check input = Option.some <$> check input := by
    unfold nullable
    split
    · exact absurd rfl given
    · rfl
  by_cases null : input = .null
  · subst null
    cases valid
    exact ⟨Shape.isReadable_leaf trivial trivial ample, rfl⟩
  · rw [other null] at valid
    obtain ⟨one, checked, rfl⟩ := Checked.valid_of_map valid
    obtain ⟨readable, again⟩ := steady read checked
    refine ⟨readable, ?_⟩
    change nullable check (shape one).toValue = _
    rw [other (given one), again]
    rfl

theorem keeps_items {check : Value → Checked α} {shape : α → Shape} {results : List α}
    (each : ∀ result ∈ results, Keeps room check shape result) :
    Keeps (room + 1) (listOf check) (fun results => .list (results.map shape)) results := by
  have items (position : Int) :
      itemsFrom check position (Shape.toValues (results.map shape)) = .valid results := by
    induction results generalizing position with
    | nil => rfl
    | cons result rest ih =>
      obtain ⟨here, later⟩ := List.forall_mem_cons.mp each
      rw [List.map_cons, Shape.toValues, itemsFrom, here.again, ih later]
      rfl
  refine ⟨Shape.isReadable_list ?_, items 0⟩
  exact List.forall_mem_map.mpr fun result member => (each result member).readable

theorem steady_listOf {check : Value → Checked α} {shape : α → Shape}
    (steady : Steady room check shape) :
    Steady (room + 1) (listOf check) fun results => .list (results.map shape) := by
  rintro input results ⟨document, read, rfl⟩ valid
  cases document with
  | arr items =>
    have given : ∀ item ∈ items, item.IsRead room := fun item member => read.item member
    refine keeps_items ?_
    change itemsFrom check 0 (Json.toValues items) = .valid results at valid
    generalize (0 : Int) = position at valid
    clear read
    induction items generalizing position results with
    | nil =>
      cases valid
      exact nofun
    | cons item rest ih =>
      obtain ⟨here, later⟩ := List.forall_mem_cons.mp given
      obtain ⟨_, others, first, behind, rfl⟩ := Checked.valid_of_seq valid
      obtain ⟨result, checked, rfl⟩ := Checked.valid_of_map first
      refine List.forall_mem_cons.mpr ⟨?_, ih later _ behind⟩
      exact steady ⟨item, here, rfl⟩ (Checked.under_eq_valid.mp checked)
  | null | bool | int | float | str | obj => cases valid

theorem keeps_texts (items : List String) : Keeps (room + 2) (listOf text) .texts items := by
  refine ⟨Shape.isReadable_plain (Json.isRead_arr ?_), listOf_text items⟩
  intro item member
  obtain ⟨content, _, rfl⟩ := List.mem_map.mp member
  exact Json.IsLeaf.isRead trivial trivial (Nat.le_add_left 1 room)

/-- Whatever is found among entries is read. -/
def Within (room : Nat) (given : List (Value × Value)) : Prop :=
  ∀ ⦃name input⦄, Value.lookup? given name = some input → input.IsRead room

/-- A result that was gathered from fields: each of them can be written and read, and wherever they
are found under their names the same result is gathered. -/
structure Gathered (room : Nat) (read : List (Value × Value) → Checked α) (result : α)
    (fields : List (String × Shape)) : Prop where
  readable : ∀ field ∈ fields, field.2.IsReadable room
  again : ∀ given, (∀ field ∈ fields, Value.lookup? given field.1 = some field.2.toValue) →
    read given = .valid result

namespace Gathered

variable {read : List (Value × Value) → Checked α} {result : α} {fields : List (String × Shape)}

theorem map (gathered : Gathered room read result fields) (build : α → β) :
    Gathered room (fun given => build <$> read given) (build result) fields where
  readable := gathered.readable
  again given found := by
    rw [gathered.again given found]
    rfl

theorem seq {whole : List (Value × Value) → Checked (α → β)} {build : α → β}
    {others : List (String × Shape)} (first : Gathered room whole build fields)
    (second : Gathered room read result others) :
    Gathered room (fun given => whole given <*> read given) (build result) (fields ++ others) where
  readable := List.forall_mem_append.mpr ⟨first.readable, second.readable⟩
  again given found := by
    obtain ⟨here, there⟩ := List.forall_mem_append.mp found
    rw [first.again given here, second.again given there]
    rfl

end Gathered

section Fields

variable {given : List (Value × Value)} {name : String} {check : Value → Checked α}
  {shape : α → Shape} {result : α}

theorem Keeps.field {read : List (Value × Value) → Checked α}
    (keeps : Keeps room check shape result)
    (reads : ∀ {given input}, Value.lookup? given name = some input →
      check input = .valid result → read given = .valid result) :
    Gathered room read result [(name, shape result)] where
  readable := List.forall_mem_singleton.mpr keeps.readable
  again _ found := reads (found _ List.mem_cons_self) keeps.again

theorem gathered_required (steady : Steady room check shape) (within : Within room given)
    (valid : required given name check = .valid result) :
    Gathered room (fun given => required given name check) result [(name, shape result)] := by
  have takes := required_takes valid
  unfold Takes at takes
  cases found : Value.lookup? given name with
  | none => simp [found] at takes
  | some input =>
    simp only [found] at takes
    exact (steady (within found) takes).field required_valid

theorem gathered_optional {absent : α} (steady : Steady room check shape)
    (default : Keeps room check shape absent) (within : Within room given)
    (valid : optional given name absent check = .valid result) :
    Gathered room (fun given => optional given name absent check) result
      [(name, shape result)] := by
  have takes := optional_takes valid
  unfold Takes at takes
  cases found : Value.lookup? given name with
  | none =>
    simp only [found, Option.some.injEq] at takes
    subst takes
    exact default.field optional_valid
  | some input =>
    simp only [found] at takes
    exact (steady (within found) takes).field optional_valid

theorem gathered_nullable (steady : Steady room check shape)
    (apart : ∀ one, (shape one).toValue ≠ .null) (ample : 1 ≤ room) (within : Within room given)
    {result : Option α} (valid : optionalNullable given name check = .valid result) :
    Gathered room (fun given => optionalNullable given name check) result
      [(name, .optional shape result)] :=
  gathered_optional (steady_nullable steady apart ample)
    ⟨Shape.isReadable_leaf trivial trivial ample, rfl⟩ within valid

theorem gathered_tag (kind : String) (ample : 1 ≤ room) :
    Gathered room (fun given => tagField given name kind) () [(name, .text kind)] where
  readable := List.forall_mem_singleton.mpr (Shape.isReadable_leaf trivial trivial ample)
  again _ found := tagField_valid (found _ List.mem_cons_self)

end Fields

section Sorts

variable {given : List (Value × Value)} {name : String} (ample : 1 ≤ room)
  (within : Within room given)
include ample within

theorem gathered_text {content : String} (valid : required given name text = .valid content) :
    Gathered room (fun given => required given name text) content [(name, .text content)] :=
  gathered_required (steady_text ample) within valid

theorem gathered_textOr {absent content : String}
    (valid : optional given name absent text = .valid content) :
    Gathered room (fun given => optional given name absent text) content
      [(name, .text content)] :=
  gathered_optional (steady_text ample) ⟨Shape.isReadable_leaf trivial trivial ample, rfl⟩ within
    valid

theorem gathered_nullableText {content : Option String}
    (valid : optionalNullable given name text = .valid content) :
    Gathered room (fun given => optionalNullable given name text) content
      [(name, .optional .text content)] :=
  gathered_nullable (steady_text ample) (fun _ => nofun) ample within valid

theorem gathered_flag {absent value : Bool}
    (valid : optional given name absent flag = .valid value) :
    Gathered room (fun given => optional given name absent flag) value [(name, .bool value)] :=
  gathered_optional (steady_flag ample) ⟨Shape.isReadable_leaf trivial trivial ample, rfl⟩ within
    valid

theorem gathered_integer {number : Int} (valid : optional given name 0 integer = .valid number) :
    Gathered room (fun given => optional given name 0 integer) number [(name, .int number)] :=
  gathered_optional (steady_integer ample)
    ⟨Shape.isReadable_leaf trivial (show Decimal.isSpellable 0 = true by decide) ample, rfl⟩
    within valid

theorem gathered_anything (enough : room ≤ Json.Stored.depthLimit) {value : Value}
    (valid : optional given name .null anything = .valid value) :
    Gathered room (fun given => optional given name .null anything) value
      [(name, .free value)] := by
  refine gathered_optional (steady_anything enough) ⟨?_, rfl⟩ within valid
  exact Shape.isReadable_free ⟨.null, Json.IsLeaf.isRead trivial trivial ample, rfl⟩ enough

end Sorts

theorem lookup?_fields {fields : List (String × Shape)} (once : (fields.map Prod.fst).Nodup) :
    ∀ field ∈ fields, Value.lookup? ((Shape.toMapping fields).map fun entry =>
      (.str entry.1, entry.2)) field.1 = some field.2.toValue := by
  induction fields with
  | nil => exact nofun
  | cons first rest ih =>
    obtain ⟨absent, later⟩ := List.nodup_cons.mp once
    intro field member
    rcases List.mem_cons.mp member with rfl | behind
    · simp [Shape.toMapping, Value.lookup?, Value.sameKey]
    · have other : first.1 ≠ field.1 := by
        intro same
        exact absent (List.mem_map.mpr ⟨field, behind, same.symm⟩)
      simpa [Shape.toMapping, Value.lookup?, Value.sameKey, other] using ih later field behind

section Records

variable {read : List (Value × Value) → Checked α} {result : α} {fields : List (String × Shape)}

/-- A record whose fields were gathered can be written and read, and comes again. -/
theorem Gathered.record (gathered : Gathered room read result fields)
    (once : (fields.map Prod.fst).Nodup) : (Shape.record fields).IsReadable (room + 1) ∧
      Validation.record read (Shape.record fields).toValue = .valid result :=
  ⟨Shape.isReadable_record once gathered.readable, gathered.again _ (lookup?_fields once)⟩

theorem within_of_entries {input : Value} (isRead : input.IsRead (room + 1))
    {given : List (Value × Value)} (found : entries? input = some given) :
    input = .mapping given ∧ Within room given := by
  obtain ⟨document, isRead, rfl⟩ := isRead
  cases document with
  | obj entries =>
    rw [Json.toValue_eq_mapping] at found ⊢
    cases found
    refine ⟨rfl, fun name input found => ?_⟩
    rw [Json.lookup?_collapse] at found
    obtain ⟨item, last, rfl⟩ := Option.map_eq_some_iff.mp found
    exact ⟨item, isRead.entry (Json.mem_of_lastOf? last), rfl⟩
  | null | bool | int | float | str | arr => cases found

end Records

section Shapes

variable {fields : α → List (String × Shape)}
  (once : ∀ result, ((fields result).map Prod.fst).Nodup)
include once

/-- Where the fields of every result are gathered, their record is kept. -/
theorem steady_record {read : List (Value × Value) → Checked α}
    (gathers : ∀ ⦃given result⦄, Within room given → read given = .valid result →
      Gathered room read result (fields result)) :
    Steady (room + 1) (record read) fun result => .record (fields result) := by
  intro input result isRead valid
  unfold record at valid
  cases found : entries? input with
  | none =>
    rw [found] at valid
    cases valid
  | some given =>
    rw [found] at valid
    obtain ⟨readable, again⟩ :=
      (gathers (within_of_entries isRead found).2 valid).record (once result)
    exact ⟨readable, again⟩

/-- The same of records that a tag tells apart, where that tag is among the fields. -/
theorem steady_tagged {name : String} {source : Source}
    {variant? : String → Option (List (Value × Value) → Checked α)}
    (gathers : ∀ ⦃tag build given result⦄, variant? tag = some build → Within room given →
      build given = .valid result →
        Gathered room build result (fields result) ∧ (name, .text tag) ∈ fields result) :
    Steady (room + 1) (tagged source name variant?) fun result => .record (fields result) := by
  intro input result isRead valid
  unfold tagged at valid
  cases found : entries? input with
  | none =>
    rw [found] at valid
    cases valid
  | some given =>
    simp only [found] at valid
    split at valid
    · cases valid
    · rename_i tag typed
      cases byTag : variant? tag with
      | none =>
        rw [byTag] at valid
        cases valid
      | some build =>
        rw [byTag] at valid
        obtain ⟨gathered, tagged⟩ := gathers byTag (within_of_entries isRead found).2
          (Checked.under_eq_valid.mp valid)
        obtain ⟨readable, again⟩ := gathered.record (once result)
        exact ⟨readable, tagged_valid (lookup?_fields (once result) _ tagged) byTag again source⟩
    · cases valid

end Shapes

/-- What is steady as far as texts are read gives the same again for the text that its result is
written as, where no float of this is lost. -/
theorem Steady.again {check : Value → Checked α} {shape : α → Shape} {data : Value} {result : α}
    (steady : Steady (readDepth + 1) check shape)
    (valid : (Validation.document data).andThen check = .valid result)
    (numbers : (shape result).toValue.HasNumbers) : ∃ text, (shape result).toText = .ok text ∧
      ∀ again, Hands again text → (Validation.document again).andThen check = .valid result := by
  obtain ⟨input, parsed, checked⟩ := Checked.valid_of_andThen valid
  obtain ⟨_, given, found, rfl⟩ := read?_of_document parsed
  rw [← Json.toValue_collapsed given] at checked
  obtain ⟨⟨document, settles, read, value⟩, again⟩ :=
    steady ⟨given.collapsed, Json.isRead_collapsed found, rfl⟩ checked
  rw [value] at numbers again
  have finite := Json.isNumber_of_hasNumbers document read.once numbers
  have written : (shape result).toJson = .ok document := by
    rw [Shape.toJson, settles.written, Json.finite_of_isNumber document finite]
  have back := Json.givesBack_of_isNumber document read.short finite
  refine ⟨Json.render .stored document, ?_, fun data hands => ?_⟩
  · rw [Shape.toText, written]
    rfl
  · rw [hands.spelled (Json.Layout.spells_of_givesBack back) read.shallow check]
    exact again

end Validation

end Transcript
