import Transcript.Proofs.Json.Reading

namespace Transcript.Json

def trim (chars : List Char) : List Char := chars.dropWhile isGap

@[simp] theorem trim_gaps {gap : List Char} (blank : gap.all isGap) (rest : List Char) :
    trim (gap ++ rest) = trim rest := by
  rw [trim, List.dropWhile_append_of_pos (List.all_eq_true.mp blank), trim]

@[simp] theorem trim_gap {c : Char} (blank : isGap c = true) (rest : List Char) :
    trim (c :: rest) = trim rest := by
  rw [trim, List.dropWhile_cons_of_pos blank, trim]

@[simp] theorem trim_solid {c : Char} (solid : isGap c = false) (rest : List Char) :
    trim (c :: rest) = c :: rest := by
  rw [trim, List.dropWhile_cons_of_neg (by simp [solid])]

def isCloser (c : Char) : Bool := c = ',' || c = ':' || c = ']' || c = '\x7d'

/-- What may follow a document: nothing, or a closer, behind white space. -/
def Closes (rest : List Char) : Prop := ∀ c ∈ (trim rest).head?, isCloser c = true

theorem closes_nil : Closes [] := by
  intro c member
  cases member

theorem closes_closer {c : Char} (closer : isCloser c = true) (rest : List Char) :
    Closes (c :: rest) := by
  have solid : isGap c = false := by
    unfold isCloser at closer
    simp only [Bool.or_eq_true, decide_eq_true_eq] at closer
    rcases closer with ((rfl | rfl) | rfl) | rfl <;> rfl
  intro other member
  rw [trim_solid solid] at member
  cases member
  exact closer

theorem closes_gaps {gap rest : List Char} (blank : gap.all isGap) (closes : Closes rest) :
    Closes (gap ++ rest) := by
  unfold Closes
  rwa [trim_gaps blank]

theorem closes_gap {c : Char} {rest : List Char} (blank : isGap c = true) (closes : Closes rest) :
    Closes (c :: rest) := by
  unfold Closes
  rwa [trim_gap blank]

theorem Closes.delimited {rest : List Char} (closes : Closes rest) : Delimited rest := by
  intro c member
  obtain ⟨behind, rfl⟩ := List.head?_eq_some_iff.mp member
  cases gap : isGap c with
  | true => exact .inl rfl
  | false =>
    have closer : isCloser c = true := closes c (by simp [gap])
    unfold isCloser at closer
    simp only [Bool.or_eq_true, decide_eq_true_eq] at closer
    rcases closer with ((rfl | rfl) | rfl) | rfl <;> exact .inr rfl

/-- The document that a word names: a constant, or else the number that it spells. -/
def named? (word : List Char) : Option Json :=
  if word = ['n', 'u', 'l', 'l'] then some .null
  else if word = ['t', 'r', 'u', 'e'] then some (.bool true)
  else if word = ['f', 'a', 'l', 's', 'e'] then some (.bool false)
  else (Decimal.Numeral.split? word).map Decimal.Numeral.document

theorem named?_number {numeral : Decimal.Numeral} (standard : numeral.IsStandard) {mark : Char}
    (marked : Decimal.Numeral.IsMark mark) :
    named? (numeral.spelled mark) = some numeral.document := by
  have spelled := Decimal.Numeral.split?_spelled standard marked
  have other (word : List Char) (none : Decimal.Numeral.split? word = none) :
      numeral.spelled mark ≠ word := by
    rintro same
    rw [same, none] at spelled
    cases spelled
  rw [named?, if_neg (other _ rfl), if_neg (other _ rfl), if_neg (other _ rfl), spelled,
    Option.map_some]

/-- A word ends where its last character does. -/
theorem word_unique {word other rest more : List Char} (all : word.all isWord = true)
    (allOther : other.all isWord = true) (ends : Delimited rest) (endsOther : Delimited more)
    (same : word ++ rest = other ++ more) : word = other ∧ rest = more := by
  have taken {word rest : List Char} (all : word.all isWord = true) (ends : Delimited rest) :
      (word ++ rest).takeWhile isWord = word := by
    have stops : rest.takeWhile isWord = [] := by
      cases rest with
      | nil => rfl
      | cons c behind =>
        rw [List.takeWhile_cons_of_neg]
        rcases ends c rfl with gap | mark
        · simp [isWord, gap]
        · obtain ⟨token, found⟩ := Option.isSome_iff_exists.mp mark
          simp [isWord, found]
    rw [List.takeWhile_append_of_pos (List.all_eq_true.mp all), stops, List.append_nil]
  have words : word = other := by rw [← taken all ends, same, taken allOther endsOther]
  exact ⟨words, List.append_cancel_left (words ▸ same)⟩

/-- The inside of a quoted text, whatever its escapes mean: no quote stands in it but behind a
backslash. -/
inductive Escape.Encloses : List Char → Prop where
  | nothing : Encloses []
  | plain {c rest} (quote : c ≠ '"') (backslash : c ≠ '\\') (more : Encloses rest) :
      Encloses (c :: rest)
  | escape {letter rest} (more : Encloses rest) : Encloses ('\\' :: letter :: rest)

namespace Escape

theorem Encloses.unit {a b c d : Char} {unit : Nat} (digits : unit? a b c d = some unit)
    {rest : List Char} (more : Encloses rest) :
    Encloses ('\\' :: 'u' :: a :: b :: c :: d :: rest) := by
  have apart := unit?_plain digits
  have plain {digit : Char} (member : digit ∈ [a, b, c, d]) {rest : List Char}
      (more : Encloses rest) : Encloses (digit :: rest) :=
    .plain (apart digit member).1 (apart digit member).2 more
  exact .escape (plain (by simp) (plain (by simp) (plain (by simp) (plain (by simp) more))))

theorem Spells.encloses {inside chars : List Char} (escaped : Spells inside chars) :
    Encloses inside := by
  induction escaped with
  | nothing => exact .nothing
  | plain quote backslash _ _ ih => exact .plain quote backslash ih
  | letter _ _ ih => exact .escape ih
  | unit digits _ _ _ ih => exact .unit digits ih
  | pair first second _ _ _ ih => exact .unit first (.unit second ih)

/-- A quoted text ends with the first quote that stands in no escape. -/
theorem Encloses.unique {inside other rest more : List Char} (left : Encloses inside)
    (right : Encloses other) (same : inside ++ '"' :: rest = other ++ '"' :: more) :
    inside = other ∧ rest = more := by
  induction left generalizing other with
  | nothing =>
    cases right with
    | nothing => exact ⟨rfl, (List.cons.inj same).2⟩
    | plain quote _ _ => exact absurd (List.cons.inj same).1.symm quote
    | escape _ => simp at same
  | plain quote backslash _ ih =>
    cases right with
    | nothing => exact absurd (List.cons.inj same).1 quote
    | plain _ _ behind =>
      obtain ⟨rfl, later⟩ := List.cons.inj same
      obtain ⟨rfl, rfl⟩ := ih behind later
      exact ⟨rfl, rfl⟩
    | escape _ => exact absurd (List.cons.inj same).1 backslash
  | escape _ ih =>
    cases right with
    | nothing => simp at same
    | plain _ backslash _ => exact absurd (List.cons.inj same).1.symm backslash
    | escape behind =>
      obtain ⟨rfl, later⟩ := List.cons.inj (List.cons.inj same).2
      obtain ⟨rfl, rfl⟩ := ih behind later
      exact ⟨rfl, rfl⟩

theorem Spells.unique {inside : List Char} {content other : String}
    (left : Spells inside content.toList) (right : Spells inside other.toList) :
    content = other := by
  have both : some content.toList = some other.toList := by
    rw [← decode?_spelled left, ← decode?_spelled right]
  exact String.toList_inj.mp (Option.some.inj both)

end Escape

/-- What stands between the brackets of a container: its parts, or white space where there are
none. -/
def Within {α : Type} (spells : List Char → List α → Prop) (chars : List Char) (parts : List α) :
    Prop :=
  chars.all isGap = true ∧ parts = [] ∨ spells chars parts

/-- Characters that spell a document, the first and the last being part of it. -/
inductive Bare (longest : ℕ∞) : List Char → Json → Prop where
  | word {word document} (nonempty : word ≠ []) (all : word.all isWord = true)
      (named : named? word = some document) : Bare longest word document
  | text {inside} {content : String} (escaped : Escape.Spells inside content.toList) :
      Bare longest ('"' :: (inside ++ ['"'])) (.str content)
  | array {chars items} (within : Within (SpellsItems longest) chars items) :
      Bare longest ('[' :: (chars ++ [']'])) (.arr items)
  | object {chars entries} (within : Within (SpellsEntries longest) chars entries) :
      Bare longest ('\x7b' :: (chars ++ ['\x7d'])) (.obj entries)

variable {longest : ℕ∞} {chars : List Char} {document : Json}

theorem Bare.head (bare : Bare longest chars document) :
    ∃ c rest, chars = c :: rest ∧ isGap c = false ∧ isCloser c = false := by
  cases bare with
  | word nonempty all _ =>
    obtain ⟨c, rest, rfl⟩ := List.exists_cons_of_ne_nil nonempty
    rw [List.all_cons, Bool.and_eq_true] at all
    obtain ⟨⟨gap, _⟩, mark⟩ : (isGap c = false ∧ c ≠ '"') ∧ mark? c = none := by
      simpa [isWord] using all.1
    have apart (other : Char) (marks : (mark? other).isSome) : c ≠ other := by
      rintro rfl
      rw [mark] at marks
      cases marks
    refine ⟨c, rest, rfl, gap, ?_⟩
    simp [isCloser, apart ',' rfl, apart ':' rfl, apart ']' rfl, apart '\x7d' rfl]
  | text | array | object => exact ⟨_, _, rfl, rfl, rfl⟩

theorem Bare.alone (bare : Bare longest chars document) :
    ∃ front core back, chars = front ++ (core ++ back) ∧ front.all isGap ∧ back.all isGap ∧
      Bare longest core document :=
  ⟨[], chars, [], (List.append_nil chars).symm, rfl, rfl, bare⟩

theorem Spells.bare {chars : List Char} {document : Json} :
    Spells longest chars document → ∃ front core back, chars = front ++ (core ++ back) ∧
      front.all isGap ∧ back.all isGap ∧ Bare longest core document
  | .null => (Bare.word (by simp) rfl rfl).alone
  | .true => (Bare.word (by simp) rfl rfl).alone
  | .false => (Bare.word (by simp) rfl rfl).alone
  | .number standard _ marked =>
    (Bare.word (Decimal.Numeral.spelled_ne_nil standard) (isWord_number standard marked)
      (named?_number standard marked)).alone
  | .text escaped => (Bare.text escaped).alone
  | .emptyArray blank => (Bare.array (.inl ⟨blank, rfl⟩)).alone
  | .array inside => (Bare.array (.inr inside)).alone
  | .emptyObject blank => (Bare.object (.inl ⟨blank, rfl⟩)).alone
  | .object inside => (Bare.object (.inr inside)).alone
  | .before (c := c) blank spelled => by
    obtain ⟨front, core, back, rfl, gapFront, gapBack, bare⟩ := Spells.bare spelled
    exact ⟨c :: front, core, back, rfl, by simpa [blank] using gapFront, gapBack, bare⟩
  | .after (c := c) blank spelled => by
    obtain ⟨front, core, back, rfl, gapFront, gapBack, bare⟩ := Spells.bare spelled
    exact ⟨front, core, back ++ [c], by simp, gapFront, by simpa [blank] using gapBack, bare⟩

/-- Whatever follows a document, it begins with no closer. -/
theorem trim_append_spelled (spelled : Spells longest chars document) (more : List Char) :
    ∃ c rest, trim (chars ++ more) = c :: rest ∧ isCloser c = false := by
  obtain ⟨front, core, back, rfl, gapFront, _, bare⟩ := spelled.bare
  obtain ⟨c, rest, rfl, solid, opens⟩ := bare.head
  refine ⟨c, rest ++ (back ++ more), ?_, opens⟩
  rw [List.append_assoc, trim_gaps gapFront, List.append_assoc, List.cons_append,
    trim_solid solid]

/-- Whatever document begins where this one does is this one, and ends where it does. -/
def Settles (longest : ℕ∞) (chars : List Char) (document : Json) : Prop :=
  ∀ ⦃others : List Char⦄ ⦃other : Json⦄ ⦃rest more : List Char⦄, Spells longest others other →
    trim (chars ++ rest) = trim (others ++ more) → Closes rest → Closes more →
    document = other ∧ trim rest = trim more

/-- The same of the parts of a container up to its bracket. -/
def SettlesWithin {α : Type} (spells : List Char → List α → Prop) (closer : Char)
    (chars : List Char) (parts : List α) : Prop :=
  ∀ ⦃others : List Char⦄ ⦃other : List α⦄ ⦃rest more : List Char⦄, spells others other →
    trim (chars ++ closer :: rest) = trim (others ++ closer :: more) → parts = other ∧ rest = more

theorem Settles.of_bare (bare : Bare longest chars document)
    (settled : ∀ ⦃others : List Char⦄ ⦃other : Json⦄ ⦃rest more : List Char⦄,
      Bare longest others other → chars ++ rest = others ++ more → Closes rest → Closes more →
      document = other ∧ rest = more) : Settles longest chars document := by
  intro others other rest more spelled same closes closesOther
  obtain ⟨front, core, back, rfl, gapFront, gapBack, bareOther⟩ := spelled.bare
  obtain ⟨c, behind, rfl, solid, _⟩ := bare.head
  obtain ⟨first, later, rfl, solidFirst, _⟩ := bareOther.head
  rw [List.append_assoc, trim_gaps gapFront, List.append_assoc, List.cons_append,
    List.cons_append, trim_solid solid, trim_solid solidFirst] at same
  obtain ⟨rfl, rfl⟩ := settled bareOther same closes (closes_gaps gapBack closesOther)
  exact ⟨rfl, trim_gaps gapBack more⟩

theorem not_word {c : Char} {word rest more : List Char} (nonempty : word ≠ [])
    (all : word.all isWord = true) (noWord : isWord c = false) : c :: rest ≠ word ++ more := by
  obtain ⟨first, behind, rfl⟩ := List.exists_cons_of_ne_nil nonempty
  intro same
  obtain ⟨rfl, _⟩ := List.cons.inj same
  rw [List.all_cons, noWord] at all
  cases all

theorem Settles.word (nonempty : chars ≠ []) (all : chars.all isWord = true)
    (named : named? chars = some document) : Settles longest chars document := by
  refine .of_bare (.word nonempty all named) ?_
  intro others other rest more bare same closes closesOther
  cases bare with
  | word _ allOther namedOther =>
    obtain ⟨rfl, rfl⟩ := word_unique all allOther closes.delimited closesOther.delimited same
    exact ⟨Option.some.inj (named.symm.trans namedOther), rfl⟩
  | text | array | object => exact absurd same.symm (not_word nonempty all rfl)

theorem between_same {opener closer : Char} {first second rest more : List Char}
    (same : opener :: (first ++ [closer]) ++ rest = opener :: (second ++ [closer]) ++ more) :
    first ++ closer :: rest = second ++ closer :: more := by
  simpa using same

theorem Settles.text {inside : List Char} {content : String}
    (escaped : Escape.Spells inside content.toList) :
    Settles longest ('"' :: (inside ++ ['"'])) (.str content) := by
  refine .of_bare (.text escaped) ?_
  intro others other rest more bare same _ _
  cases bare with
  | word nonempty all _ => exact absurd same (not_word nonempty all rfl)
  | text escapedOther =>
    obtain ⟨rfl, rfl⟩ :=
      escaped.encloses.unique escapedOther.encloses (between_same same)
    exact ⟨congrArg Json.str (escaped.unique escapedOther), rfl⟩
  | array | object => simp at same

/-- Between brackets there is either white space or parts that are settled. -/
theorem Within.settles {α : Type} {spells : List Char → List α → Prop} {closer : Char}
    (closes : isCloser closer = true) (solid : isGap closer = false)
    (begins : ∀ {chars : List Char} {parts : List α}, spells chars parts → ∀ more,
      ∃ c rest, trim (chars ++ more) = c :: rest ∧ isCloser c = false)
    {chars others : List Char} {parts other : List α} {rest more : List Char}
    (within : Within (fun chars parts =>
      spells chars parts ∧ SettlesWithin spells closer chars parts) chars parts)
    (withinOther : Within spells others other)
    (same : chars ++ closer :: rest = others ++ closer :: more) :
    parts = other ∧ rest = more := by
  have trimmed := congrArg trim same
  -- Parts do not begin with the bracket that closes them.
  have apart {chars : List Char} {parts : List α} (spelled : spells chars parts)
      (behind further : List Char) : trim (chars ++ behind) ≠ closer :: further := by
    intro found
    obtain ⟨c, tail, begun, opens⟩ := begins spelled behind
    rw [begun] at found
    cases found
    rw [closes] at opens
    cases opens
  rcases within with ⟨blank, rfl⟩ | ⟨spelled, settled⟩ <;>
    rcases withinOther with ⟨gap, rfl⟩ | spelledOther
  · rw [trim_gaps blank, trim_gaps gap, trim_solid solid, trim_solid solid] at trimmed
    exact ⟨rfl, (List.cons.inj trimmed).2⟩
  · rw [trim_gaps blank, trim_solid solid] at trimmed
    exact absurd trimmed.symm (apart spelledOther _ _)
  · rw [trim_gaps gap, trim_solid solid] at trimmed
    exact absurd trimmed (apart spelled _ _)
  · exact settled spelledOther trimmed

theorem SpellsItems.trim_append {items : List Json} (spelled : SpellsItems longest chars items)
    (more : List Char) : ∃ c rest, trim (chars ++ more) = c :: rest ∧ isCloser c = false := by
  cases spelled with
  | last first => exact trim_append_spelled first more
  | more first _ =>
    rw [List.append_assoc]
    exact trim_append_spelled first _

theorem SpellsEntries.trim_append {entries : List (String × Json)}
    (spelled : SpellsEntries longest chars entries) (more : List Char) :
    ∃ c rest, trim (chars ++ more) = c :: rest ∧ isCloser c = false := by
  cases spelled with
  | last named _ | more named _ _ =>
    rw [List.append_assoc]
    exact trim_append_spelled named _

theorem Settles.array {items : List Json}
    (within : Within (fun chars items => SpellsItems longest chars items ∧
      SettlesWithin (SpellsItems longest) ']' chars items) chars items) :
    Settles longest ('[' :: (chars ++ [']'])) (.arr items) := by
  refine .of_bare (.array (within.imp_right And.left)) ?_
  intro others other rest more bare same _ _
  cases bare with
  | word nonempty all _ => exact absurd same (not_word nonempty all rfl)
  | array withinOther =>
    obtain ⟨rfl, rfl⟩ := within.settles rfl rfl SpellsItems.trim_append withinOther
      (between_same same)
    exact ⟨rfl, rfl⟩
  | text | object => simp at same

theorem Settles.object {entries : List (String × Json)}
    (within : Within (fun chars entries => SpellsEntries longest chars entries ∧
      SettlesWithin (SpellsEntries longest) '\x7d' chars entries) chars entries) :
    Settles longest ('\x7b' :: (chars ++ ['\x7d'])) (.obj entries) := by
  refine .of_bare (.object (within.imp_right And.left)) ?_
  intro others other rest more bare same _ _
  cases bare with
  | word nonempty all _ => exact absurd same (not_word nonempty all rfl)
  | object withinOther =>
    obtain ⟨rfl, rfl⟩ := within.settles rfl rfl SpellsEntries.trim_append withinOther
      (between_same same)
    exact ⟨rfl, rfl⟩
  | text | array => simp at same

theorem Settles.entry {name names others : List Char} {key other : String} {item next : Json}
    {rest more : List Char} (settledKey : Settles longest name (.str key))
    (settled : Settles longest chars item) (named : Spells longest names (.str other))
    (spelled : Spells longest others next)
    (same : trim (name ++ ':' :: (chars ++ rest)) = trim (names ++ ':' :: (others ++ more)))
    (closes : Closes rest) (closesOther : Closes more) :
    (key, item) = (other, next) ∧ trim rest = trim more := by
  obtain ⟨keys, behind⟩ := settledKey named same (closes_closer rfl _) (closes_closer rfl _)
  cases keys
  obtain ⟨rfl, ends⟩ := settled spelled (congrArg trim (List.cons.inj behind).2) closes closesOther
  exact ⟨rfl, ends⟩

mutual
theorem settles {chars : List Char} {document : Json} :
    Spells longest chars document → Settles longest chars document
  | .null => .word (by simp) rfl rfl
  | .true => .word (by simp) rfl rfl
  | .false => .word (by simp) rfl rfl
  | .number standard _ marked =>
    .word (Decimal.Numeral.spelled_ne_nil standard) (isWord_number standard marked)
      (named?_number standard marked)
  | .text escaped => .text escaped
  | .emptyArray blank => .array (.inl ⟨blank, rfl⟩)
  | .array inside => .array (.inr ⟨inside, settlesItems inside⟩)
  | .emptyObject blank => .object (.inl ⟨blank, rfl⟩)
  | .object inside => .object (.inr ⟨inside, settlesEntries inside⟩)
  | .before blank spelled => by
    intro others other rest more spelledOther same
    rw [List.cons_append, trim_gap blank] at same
    exact settles spelled spelledOther same
  | .after blank spelled => by
    intro others other rest more spelledOther same closes
    rw [List.append_assoc, List.singleton_append] at same
    rw [← trim_gap blank rest]
    exact settles spelled spelledOther same (closes_gap blank closes)

theorem settlesItems {chars : List Char} {items : List Json} :
    SpellsItems longest chars items → SettlesWithin (SpellsItems longest) ']' chars items
  | .last spelled => by
    intro others other rest more spelledOther same
    cases spelledOther with
    | last first =>
      obtain ⟨rfl, ends⟩ :=
        settles spelled first same (closes_closer rfl _) (closes_closer rfl _)
      exact ⟨rfl, (List.cons.inj ends).2⟩
    | more first _ =>
      rw [List.append_assoc] at same
      obtain ⟨_, ends⟩ := settles spelled first same (closes_closer rfl _) (closes_closer rfl _)
      cases ends
  | .more spelled behind => by
    intro others other rest more spelledOther same
    rw [List.append_assoc] at same
    cases spelledOther with
    | last first =>
      obtain ⟨_, ends⟩ := settles spelled first same (closes_closer rfl _) (closes_closer rfl _)
      cases ends
    | more first later =>
      rw [List.append_assoc] at same
      obtain ⟨rfl, ends⟩ :=
        settles spelled first same (closes_closer rfl _) (closes_closer rfl _)
      obtain ⟨rfl, rfl⟩ := settlesItems behind later (congrArg trim (List.cons.inj ends).2)
      exact ⟨rfl, rfl⟩

theorem settlesEntries {chars : List Char} {entries : List (String × Json)} :
    SpellsEntries longest chars entries →
      SettlesWithin (SpellsEntries longest) '\x7d' chars entries
  | .last named spelled => by
    intro others other rest more spelledOther same
    cases spelledOther with
    | last namedOther first =>
      simp only [List.append_assoc, List.cons_append] at same
      obtain ⟨keys, ends⟩ := (settles named).entry (settles spelled) namedOther first same
        (closes_closer rfl _) (closes_closer rfl _)
      exact ⟨congrArg ([·]) keys, (List.cons.inj ends).2⟩
    | more namedOther first _ =>
      simp only [List.append_assoc, List.cons_append] at same
      obtain ⟨_, ends⟩ := (settles named).entry (settles spelled) namedOther first same
        (closes_closer rfl _) (closes_closer rfl _)
      cases ends
  | .more named spelled behind => by
    intro others other rest more spelledOther same
    cases spelledOther with
    | last namedOther first =>
      simp only [List.append_assoc, List.cons_append] at same
      obtain ⟨_, ends⟩ := (settles named).entry (settles spelled) namedOther first same
        (closes_closer rfl _) (closes_closer rfl _)
      cases ends
    | more namedOther first later =>
      simp only [List.append_assoc, List.cons_append] at same
      obtain ⟨keys, ends⟩ := (settles named).entry (settles spelled) namedOther first same
        (closes_closer rfl _) (closes_closer rfl _)
      obtain ⟨rfl, rfl⟩ := settlesEntries behind later (congrArg trim (List.cons.inj ends).2)
      exact ⟨congrArg (· :: _) keys, rfl⟩
end

/-- A text spells one document at most. -/
theorem Spells.unique {other : Json} (spelled : Spells longest chars document)
    (spelledOther : Spells longest chars other) : document = other :=
  (settles spelled spelledOther rfl closes_nil closes_nil).1

theorem Spells.iff_eq (spelled : Spells longest chars document) (other : Json) :
    Spells longest chars other ↔ other = document :=
  ⟨fun found => found.unique spelled, fun same => same ▸ spelled⟩

end Transcript.Json
