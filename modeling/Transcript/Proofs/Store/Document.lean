import Mathlib.Data.List.Forall2
import Transcript.Store.Document

namespace Transcript

namespace Json

def textWithoutNul (text : String) : String := String.ofList (text.toList.filter (· ≠ '\x00'))

mutual
/-- A document whose texts and keys hold no U+0000. -/
def withoutNul : Json → Json
  | .str text => .str (textWithoutNul text)
  | .arr items => .arr (withoutNulItems items)
  | .obj entries => .obj (withoutNulEntries entries)
  | document => document

def withoutNulItems : List Json → List Json
  | [] => []
  | item :: rest => withoutNul item :: withoutNulItems rest

def withoutNulEntries : List (String × Json) → List (String × Json)
  | [] => []
  | (key, item) :: rest => (textWithoutNul key, withoutNul item) :: withoutNulEntries rest
end

end Json

namespace Store

open Json

/-- The characters that stay when escapes for U+0000 are dropped. -/
def kept (chars : List Char) : List Char := (dropNul chars).1

/-- A character stays unless an escape for U+0000 or an escaped backslash begins with it. -/
theorem dropNul_cons {c : Char} {rest : List Char}
    (single : ∀ more, c :: rest ≠ '\\' :: '\\' :: more)
    (other : ∀ more, c :: rest ≠ '\\' :: 'u' :: '0' :: '0' :: '0' :: '0' :: more) :
    dropNul (c :: rest) = (c :: kept rest, (dropNul rest).2) := by
  rw [dropNul.eq_def]
  split
  · rename_i more same
    exact absurd same (single more)
  · rename_i more same
    exact absurd same (other more)
  · rename_i same
    cases same
    rfl
  · rename_i same
    cases same

theorem kept_of_none_dropped (chars : List Char) (none : (dropNul chars).2 = 0) :
    kept chars = chars := by
  unfold kept
  fun_induction dropNul chars with
  | case1 rest kept count found ih => simp_all
  | case2 rest kept count found ih => simp at none
  | case3 c rest _ _ kept count found ih => simp_all
  | case4 => rfl

/-- One text comes out as another and so many escapes for U+0000 are dropped from it, whatever
follows it. -/
def Strips (before : List Char) (count : Nat) (after : List Char) : Prop :=
  ∀ rest, dropNul (before ++ rest) = (after ++ kept rest, count + (dropNul rest).2)

namespace Strips

theorem nil : Strips [] 0 [] := by
  intro rest
  rw [Nat.zero_add]
  rfl

theorem append {first second firstAfter secondAfter : List Char} {count more : Nat}
    (left : Strips first count firstAfter) (right : Strips second more secondAfter) :
    Strips (first ++ second) (count + more) (firstAfter ++ secondAfter) := by
  intro rest
  rw [List.append_assoc, left, kept, right, List.append_assoc, Nat.add_assoc]

theorem single {c : Char} {chars : List Char}
    (single : ∀ rest more, c :: (chars ++ rest) ≠ '\\' :: '\\' :: more)
    (other : ∀ rest more,
      c :: (chars ++ rest) ≠ '\\' :: 'u' :: '0' :: '0' :: '0' :: '0' :: more)
    {count : Nat} {after : List Char} (behind : Strips chars count after) :
    Strips (c :: chars) count (c :: after) := by
  intro rest
  rw [List.cons_append, dropNul_cons (single rest) (other rest), kept, behind rest]
  rfl

theorem cons {before after : List Char} {count : Nat} {c : Char} (head : c ≠ '\\')
    (behind : Strips before count after) : Strips (c :: before) count (c :: after) := by
  apply single _ _ behind
  all_goals
    intro rest more same
    exact head (List.cons.inj same).1

theorem plain {chars : List Char} (unescaped : '\\' ∉ chars) : Strips chars 0 chars := by
  induction chars with
  | nil => exact nil
  | cons c chars ih =>
    have head : c ≠ '\\' := fun same => unescaped (same ▸ List.mem_cons_self)
    exact (ih fun member => unescaped (List.mem_cons_of_mem _ member)).cons head

theorem nul : Strips ['\\', 'u', '0', '0', '0', '0'] 1 [] := by
  intro rest
  simp only [List.cons_append, List.nil_append]
  rw [dropNul, Nat.add_comm]
  rfl

theorem letter {letter : Char} (other : letter ≠ 'u') :
    Strips ['\\', letter] 0 ['\\', letter] := by
  by_cases double : letter = '\\'
  · subst double
    intro rest
    simp only [List.cons_append, List.nil_append]
    rw [dropNul, Nat.zero_add]
    rfl
  · apply single _ _ (plain (by simpa using Ne.symm double))
    · intro rest more same
      exact double (List.cons.inj (List.cons.inj same).2).1
    · intro rest more same
      exact other (List.cons.inj (List.cons.inj same).2).1

theorem unit {a b c d : Char} (unescaped : '\\' ∉ [a, b, c, d])
    (some : [a, b, c, d] ≠ ['0', '0', '0', '0']) :
    Strips ['\\', 'u', a, b, c, d] 0 ['\\', 'u', a, b, c, d] := by
  apply single _ _ (plain (by simpa using unescaped))
  · intro rest more same
    simp at same
  · intro rest more same
    simp only [List.cons_append, List.nil_append, List.cons.injEq] at same
    obtain ⟨_, _, rfl, rfl, rfl, rfl, _⟩ := same
    exact some rfl

end Strips

/-- One text comes out as another, whatever follows it. -/
def Passes (before after : List Char) : Prop :=
  ∀ rest, kept (before ++ rest) = after ++ kept rest

theorem Strips.passes {before after : List Char} {count : Nat}
    (strips : Strips before count after) : Passes before after :=
  fun rest => congrArg Prod.fst (strips rest)

namespace Passes

theorem nil : Passes [] [] := fun _ => rfl

theorem append {first second firstAfter secondAfter : List Char} (left : Passes first firstAfter)
    (right : Passes second secondAfter) : Passes (first ++ second) (firstAfter ++ secondAfter) := by
  intro rest
  rw [List.append_assoc, left, right, List.append_assoc]

theorem plain {chars : List Char} (unescaped : '\\' ∉ chars) : Passes chars chars :=
  (Strips.plain unescaped).passes

theorem cons {before after : List Char} {c : Char} (head : c ≠ '\\') (rest : Passes before after) :
    Passes (c :: before) (c :: after) := by
  have single : Passes [c] [c] := plain (by simpa using head.symm)
  exact single.append rest

end Passes

theorem letter_ne_u {c letter : Char} (found : Escape.letter? c = some letter) :
    letter ≠ 'u' ∧ c ≠ '\x00' := by
  unfold Escape.letter? at found
  split at found <;> first | (cases found; decide) | cases found

/-- The digits of a control character; only those of U+0000 are four zeros. -/
theorem hexDigits_control : ∀ code < 0x20, code ≠ 0 →
    ∃ high low, Text.hexDigits 4 code = ['0', '0', high, low] ∧ ¬ (high = '0' ∧ low = '0') ∧
      high ≠ '\\' ∧ low ≠ '\\' := by
  intro code small some
  refine ⟨if code < 16 then '0' else '1', Nat.digitChar (code % 16), ?_⟩
  revert code
  decide

theorem passes_control {code : Nat} (small : code < 0x20) (some : code ≠ 0) :
    Passes ('\\' :: 'u' :: Text.hexDigits 4 code) ('\\' :: 'u' :: Text.hexDigits 4 code) := by
  obtain ⟨high, low, digits, notNul, plainHigh, plainLow⟩ := hexDigits_control code small some
  rw [digits]
  exact (Strips.unit (by simp [plainHigh.symm, plainLow.symm]) (by simpa using notNul)).passes

theorem passes_encodeChar (c : Char) :
    Passes (Escape.encodeChar c) (if c = '\x00' then [] else Escape.encodeChar c) := by
  by_cases nul : c = '\x00'
  · subst nul
    exact Strips.nul.passes
  · rw [if_neg nul]
    unfold Escape.encodeChar
    cases found : Escape.letter? c with
    | some letter => exact (Strips.letter (letter_ne_u found).1).passes
    | none =>
      by_cases control : c.toNat < 0x20
      · have some : c.toNat ≠ 0 := fun zero => nul (Char.toNat_inj.mp zero)
        simpa [control] using passes_control control some
      · have plain : c ≠ '\\' := by
          rintro rfl
          cases found
        have alone : Passes [c] [c] := .plain (by simpa using plain.symm)
        simpa [control] using alone

theorem passes_encode (chars : List Char) :
    Passes (Escape.encode chars) (Escape.encode (chars.filter (· ≠ '\x00'))) := by
  induction chars with
  | nil => exact .nil
  | cons c chars ih =>
    have both := (passes_encodeChar c).append ih
    by_cases nul : c = '\x00'
    · simpa [Escape.encode, nul] using both
    · simpa [Escape.encode, nul] using both

theorem passes_quoted (text : String) :
    Passes (quotedChars text) (quotedChars (textWithoutNul text)) := by
  have quote : Passes ['"'] ['"'] := .plain (by decide)
  have inside := (passes_encode text.toList).append quote
  have whole := inside.cons (c := '"') (by decide)
  simpa [quotedChars, textWithoutNul] using whole

theorem plain_digits (number : Nat) : '\\' ∉ Nat.toDigits 10 number := by
  intro member
  have digit := Nat.isDigit_of_mem_toDigits (by decide) (by decide) member
  exact absurd digit (by decide)

theorem plain_int (number : Int) : '\\' ∉ intChars number := by
  unfold intChars
  split <;> simp [plain_digits]

theorem plain_withPoint (places : Nat) (number : Nat) :
    '\\' ∉ Decimal.withPoint places (Nat.toDigits 10 number) := by
  intro member
  simp only [Decimal.withPoint, List.mem_append, List.mem_cons] at member
  rcases member with front | point | behind
  · exact plain_digits number (List.mem_of_mem_take front)
  · cases point
  · exact plain_digits number (List.mem_of_mem_drop behind)

theorem plain_exponent (width : Nat) (exponent : Int) :
    '\\' ∉ Decimal.exponentChars width exponent := by
  unfold Decimal.exponentChars
  split <;> simp [plain_digits, List.mem_replicate]

theorem plain_decimal (layout : Decimal.Layout) (decimal : Decimal.Scaled) :
    '\\' ∉ layout.chars decimal := by
  unfold Decimal.Layout.chars
  simp only
  generalize (if decimal.digits = 0 then 0 else
    decimal.exponent + ((Nat.toDigits 10 decimal.digits).length : Int) - 1) = leading
  split
  · split
    · simp [plain_digits, List.mem_replicate]
    · split
      · simp [plain_digits, List.mem_replicate]
      · exact plain_withPoint _ _
  · split <;> simp [plain_digits, plain_withPoint, plain_exponent]

theorem plain_float (number : Float) : '\\' ∉ Layout.stored.floatChars number := by
  have signed (negative : Bool) (magnitude : Decimal.Binary) :
      '\\' ∉ Layout.stored.number.signed negative magnitude := by
    unfold Decimal.Layout.signed
    cases negative <;> simp [plain_decimal]
  unfold Layout.floatChars Decimal.Layout.float
  simp only [Layout.stored, Bool.false_eq_true, ↓reduceIte]
  split
  · split
    · exact signed _ _
    · split <;> simp
    · simp
  · simp [nullChars]

theorem passes_separated {texts after : List (List Char)}
    (items : List.Forall₂ Passes texts after) :
    Passes (Layout.stored.separated texts) (Layout.stored.separated after) := by
  induction items with
  | nil => exact .nil
  | cons item rest ih =>
    cases rest with
    | nil => exact item
    | cons next others => exact item.append (ih.cons (by decide))

mutual
theorem passes_chars : (document : Json) →
    Passes (Layout.stored.chars document) (Layout.stored.chars document.withoutNul)
  | .null => .plain (by decide)
  | .bool flag => .plain (by cases flag <;> decide)
  | .int number => .plain (plain_int number)
  | .float number => .plain (plain_float number)
  | .str text => passes_quoted text
  | .arr items =>
    ((passes_separated (passes_itemChars items)).append (.plain (by decide))).cons (by decide)
  | .obj entries =>
    ((passes_separated (passes_entryChars entries)).append (.plain (by decide))).cons (by decide)

theorem passes_itemChars : (items : List Json) →
    List.Forall₂ Passes (Layout.stored.itemChars items)
      (Layout.stored.itemChars (withoutNulItems items))
  | [] => .nil
  | item :: rest => .cons (passes_chars item) (passes_itemChars rest)

theorem passes_entryChars : (entries : List (String × Json)) →
    List.Forall₂ Passes (Layout.stored.entryChars entries)
      (Layout.stored.entryChars (withoutNulEntries entries))
  | [] => .nil
  | (key, item) :: rest =>
    .cons ((passes_quoted key).append ((passes_chars item).cons (by decide)))
      (passes_entryChars rest)
end

/-- Dropping the escapes of a rendered document is rendering it without U+0000. -/
theorem kept_render (document : Json) :
    String.ofList (kept (Json.render .stored document).toList) =
      Json.render .stored document.withoutNul := by
  have whole := passes_chars document []
  simp only [List.append_nil] at whole
  rw [Json.render, String.toList_ofList, whole, Json.render]
  exact congrArg String.ofList (List.append_nil _)

/-- The documents of the messages of a batch, or none where the batch cannot be written. -/
def batchItems (batch : List Message) : List Json :=
  match Shape.itemsWithin Stored.depthLimit ((batch.map Message.shape).map .choice) with
  | .ok items => withoutNulItems items
  | .error _ => []

/-- The text of a batch is that of the array of its messages, where all of them can be written. -/
theorem batchText_eq (batch : List Message) :
    batchText batch = (fun items => Json.render .stored (.arr items)) <$>
      Shape.itemsWithin Stored.depthLimit ((batch.map Message.shape).map .choice) := by
  unfold batchText batchShape Shape.toText Shape.toJson Shape.toJsonWithin
  cases Shape.itemsWithin Stored.depthLimit ((batch.map Message.shape).map .choice) <;> rfl

/-- The document of a batch is the array of its items. -/
theorem document_eq (batch : List Message) (identity : Identity) (desk : Desk) :
    (document batch identity desk).1 = Json.render .stored (.arr (batchItems batch)) := by
  unfold document batchItems
  rw [batchText_eq]
  cases Shape.itemsWithin Stored.depthLimit ((batch.map Message.shape).map .choice) with
  | error fault => rfl
  | ok items =>
    have stripped := kept_render (.arr items)
    simp only [Functor.map, Except.map]
    split
    · rename_i none
      rw [kept_of_none_dropped _ none, String.ofList_toList] at stripped
      exact stripped
    · exact stripped

theorem decimal_ne_nil (layout : Decimal.Layout) (decimal : Decimal.Scaled) :
    layout.chars decimal ≠ [] := by
  unfold Decimal.Layout.chars
  simp only
  generalize (if decimal.digits = 0 then 0 else
    decimal.exponent + ((Nat.toDigits 10 decimal.digits).length : Int) - 1) = leading
  split
  · split
    · simp
    · split <;> simp [Decimal.withPoint]
  · simp

theorem float_ne_nil (number : Float) : Layout.stored.floatChars number ≠ [] := by
  have signed (negative : Bool) (magnitude : Decimal.Binary) :
      Layout.stored.number.signed negative magnitude ≠ [] := by
    unfold Decimal.Layout.signed
    cases negative <;> simp [decimal_ne_nil]
  unfold Layout.floatChars Decimal.Layout.float Decimal.isFinite
  cases Decimal.Kind.ofFloat number with
  | finite negative magnitude => exact signed negative magnitude
  | infinite | nan => simp [Layout.stored, nullChars]

theorem chars_ne_nil (document : Json) : Layout.stored.chars document ≠ [] := by
  cases document with
  | null => simp [Layout.chars, nullChars]
  | bool flag => cases flag <;> simp [Layout.chars, boolChars]
  | int number =>
    simp only [Layout.chars, intChars]
    split <;> simp [Nat.toDigits_ne_nil]
  | float number => exact float_ne_nil number
  | str text => simp [Layout.chars, quotedChars]
  | arr items => simp [Layout.chars]
  | obj entries => simp [Layout.chars]

theorem separated_append {first second : List (List Char)} (some : first ≠ [])
    (others : second ≠ []) :
    Layout.stored.separated (first ++ second) =
      Layout.stored.separated first ++ ',' :: Layout.stored.separated second := by
  induction first with
  | nil => exact absurd rfl some
  | cons item rest ih =>
    cases rest with
    | nil =>
      obtain ⟨next, more, rfl⟩ := List.exists_cons_of_ne_nil others
      rfl
    | cons next more =>
      have later := ih (by simp)
      simp only [List.cons_append, Layout.separated] at later ⊢
      rw [later]
      simp

theorem itemChars_append (first second : List Json) :
    Layout.stored.itemChars (first ++ second) =
      Layout.stored.itemChars first ++ Layout.stored.itemChars second := by
  induction first with
  | nil => rfl
  | cons item rest ih => simp [Layout.itemChars, ih]

/-- The text of an array starts and ends with its brackets; only the empty one holds no more. -/
theorem render_arr (items : List Json) :
    Json.render .stored (.arr items) =
      String.ofList ('[' :: Layout.stored.separated (Layout.stored.itemChars items) ++ [']']) := rfl

theorem separated_eq_nil_iff (items : List Json) :
    Layout.stored.separated (Layout.stored.itemChars items) = [] ↔ items = [] := by
  cases items with
  | nil => simp [Layout.itemChars, Layout.separated]
  | cons item rest =>
    cases rest with
    | nil => simp [Layout.itemChars, Layout.separated, chars_ne_nil]
    | cons next more => simp [Layout.itemChars, Layout.separated]

theorem render_eq_emptyDocument_iff {items : List Json} :
    Json.render .stored (.arr items) = emptyDocument ↔ items = [] := by
  rw [render_arr, ← separated_eq_nil_iff]
  constructor
  · intro same
    have chars := congrArg String.toList same
    simpa [emptyDocument] using chars
  · intro none
    rw [none]
    rfl

/-- Appending the document of an array to that of another gives the document of both. -/
theorem appendDocument_render (first second : List Json) :
    appendDocument (Json.render .stored (.arr first)) (Json.render .stored (.arr second)) =
      Json.render .stored (.arr (first ++ second)) := by
  unfold appendDocument
  by_cases noSecond : second = []
  · simp [noSecond, render_eq_emptyDocument_iff]
  by_cases noFirst : first = []
  · simp [noFirst, noSecond, render_eq_emptyDocument_iff]
  have items (documents : List Json) (some : documents ≠ []) :
      Layout.stored.itemChars documents ≠ [] := by
    cases documents with
    | nil => exact absurd rfl some
    | cons => simp [Layout.itemChars]
  rw [if_neg (mt render_eq_emptyDocument_iff.mp noSecond),
    if_neg (mt render_eq_emptyDocument_iff.mp noFirst), render_arr, render_arr, render_arr,
    itemChars_append, separated_append (items first noFirst) (items second noSecond),
    String.toList_ofList, String.toList_ofList, List.dropLast_concat]
  exact congrArg String.ofList (by simp)

end Store

end Transcript
