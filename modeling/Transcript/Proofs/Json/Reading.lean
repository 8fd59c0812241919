import Transcript.Json.Reader
import Transcript.Proofs.Json.Number

namespace Transcript.Json

namespace Escape

theorem hexValue?_plain {c : Char} {value : Nat} (digit : hexValue? c = some value) :
    c ≠ '"' ∧ c ≠ '\\' := by
  constructor <;> (rintro rfl; cases digit)

theorem unit?_eq_some {a b c d : Char} {unit : Nat} (digits : unit? a b c d = some unit) :
    ∃ first second third fourth, hexValue? a = some first ∧ hexValue? b = some second ∧
      hexValue? c = some third ∧ hexValue? d = some fourth ∧
      unit = ((first * 16 + second) * 16 + third) * 16 + fourth := by
  simp only [unit?, Option.bind_eq_bind, Option.bind_eq_some_iff] at digits
  obtain ⟨first, isFirst, second, isSecond, third, isThird, fourth, isFourth, sum⟩ := digits
  exact ⟨first, second, third, fourth, isFirst, isSecond, isThird, isFourth,
    (Option.some.inj sum).symm⟩

theorem unit?_plain {a b c d : Char} {unit : Nat} (digits : unit? a b c d = some unit) :
    ∀ digit ∈ [a, b, c, d], digit ≠ '"' ∧ digit ≠ '\\' := by
  obtain ⟨_, _, _, _, first, second, third, fourth, _⟩ := unit?_eq_some digits
  intro digit member
  simp only [List.mem_cons, List.not_mem_nil, or_false] at member
  rcases member with rfl | rfl | rfl | rfl
  · exact hexValue?_plain first
  · exact hexValue?_plain second
  · exact hexValue?_plain third
  · exact hexValue?_plain fourth

theorem decodeWith_plain {c : Char} (quote : c ≠ '"') (backslash : c ≠ '\\')
    (control : 0x20 ≤ c.toNat) (rest : List Char) :
    decodeWith none (c :: rest) = (c :: ·) <$> decodeWith none rest := by
  have small : ¬ c.toNat < 0x20 := by omega
  rw [decodeWith]
  · simp [quote, backslash, small]
  all_goals
    intros
    exact absurd (by assumption) backslash

theorem decodeWith_letter {letter c : Char} (meaning : unletter? letter = some c)
    (rest : List Char) :
    decodeWith none ('\\' :: letter :: rest) = (c :: ·) <$> decodeWith none rest := by
  have notUnit : letter ≠ 'u' := by
    rintro rfl
    cases meaning
  rw [decodeWith, meaning]
  intro a b c d others same
  exact absurd same notUnit

theorem joinUnit_alone {unit : Nat} (high : isHighSurrogate unit = false)
    (low : isLowSurrogate unit = false) :
    joinUnit none unit = some (some (Char.ofNat unit), none) := by
  simp [joinUnit, high, low]

/-- The inside of a quoted text decodes to the characters that it spells. -/
theorem decode?_spelled {inside chars : List Char} (escaped : Spells inside chars) :
    decode? inside = some chars := by
  unfold decode?
  induction escaped with
  | nothing => rfl
  | plain quote backslash control _ ih =>
    rw [decodeWith_plain quote backslash control, ih]
    rfl
  | letter meaning _ ih =>
    rw [decodeWith_letter meaning, ih]
    rfl
  | unit digits high low _ ih =>
    rw [decodeWith, digits, Option.bind_some, joinUnit_alone high low]
    simp [ih]
  | pair first second isHigh isLow _ ih =>
    rw [decodeWith, first, Option.bind_some]
    simp only [joinUnit, isHigh, if_true]
    rw [decodeWith, second, Option.bind_some]
    simp [joinUnit, isLow, ih]

end Escape

/-- Inside quotes the tokenizer goes on to the closing quote. -/
theorem tokensFrom_quoted {inside chars : List Char} (escaped : Escape.Spells inside chars) :
    ∀ read rest, tokensFrom (.quoted read) (inside ++ rest) =
      tokensFrom (.quoted (inside.reverse ++ read)) rest := by
  have plain {c : Char} (apart : c ≠ '"' ∧ c ≠ '\\') (read rest : List Char) :
      tokensFrom (.quoted read) (c :: rest) = tokensFrom (.quoted (c :: read)) rest := by
    simp [tokensFrom, apart.1, apart.2]
  have escape (letter : Char) (read rest : List Char) :
      tokensFrom (.quoted read) ('\\' :: letter :: rest) =
        tokensFrom (.quoted (letter :: '\\' :: read)) rest := by
    simp [tokensFrom]
  have unit {a b c d : Char} {unit : Nat} (digits : Escape.unit? a b c d = some unit)
      (read rest : List Char) :
      tokensFrom (.quoted read) ('\\' :: 'u' :: a :: b :: c :: d :: rest) =
        tokensFrom (.quoted (d :: c :: b :: a :: 'u' :: '\\' :: read)) rest := by
    have apart := Escape.unit?_plain digits
    rw [escape, plain (apart a (by simp)), plain (apart b (by simp)), plain (apart c (by simp)),
      plain (apart d (by simp))]
  induction escaped with
  | nothing => exact fun _ _ => rfl
  | plain quote backslash _ _ ih =>
    intro read rest
    rw [List.cons_append, plain ⟨quote, backslash⟩, ih]
    simp
  | letter _ _ ih =>
    intro read rest
    rw [List.cons_append, List.cons_append, escape, ih]
    simp
  | unit digits _ _ _ ih =>
    intro read rest
    simp only [List.cons_append]
    rw [unit digits, ih]
    simp
  | pair first second _ _ _ ih =>
    intro read rest
    simp only [List.cons_append]
    rw [unit first, unit second, ih]
    simp

/-- Where a value may end: at the end of the text, or before white space or a mark. -/
def Delimited (rest : List Char) : Prop := ∀ c ∈ rest.head?, isGap c = true ∨ (mark? c).isSome

theorem delimited_nil : Delimited [] := by
  intro c member
  cases member

theorem delimited_gap {c : Char} (blank : isGap c = true) (rest : List Char) :
    Delimited (c :: rest) := by
  intro other member
  cases member
  exact .inl blank

theorem delimited_mark {c : Char} (marks : (mark? c).isSome) (rest : List Char) :
    Delimited (c :: rest) := by
  intro other member
  cases member
  exact .inr marks

def isWord (c : Char) : Bool := !isGap c && c != '"' && (mark? c).isNone

theorem isWord_of_isDigit {c : Char} (digit : Decimal.isDigit c = true) : isWord c = true := by
  have apart (other : Char) (notDigit : Decimal.isDigit other = false) : c ≠ other := by
    rintro rfl
    rw [notDigit] at digit
    cases digit
  have gap : isGap c = false := by
    simp [isGap, apart ' ' rfl, apart '\t' rfl, apart '\n' rfl, apart '\r' rfl]
  have mark : mark? c = none := by
    unfold mark?
    split <;> first | rfl | exact absurd rfl (apart _ rfl)
  simp [isWord, gap, mark, apart '"' rfl]

theorem isWord_number {numeral : Decimal.Numeral} (standard : numeral.IsStandard) {mark : Char}
    (marked : Decimal.Numeral.IsMark mark) : (numeral.spelled mark).all isWord = true :=
  Decimal.Numeral.all_spelled (fun _ => isWord_of_isDigit) rfl standard marked

theorem tokensFrom_word {word : List Char} (all : word.all isWord = true) :
    ∀ read rest, tokensFrom (.word read) (word ++ rest) =
      tokensFrom (.word (word.reverse ++ read)) rest := by
  induction word with
  | nil => exact fun _ _ => rfl
  | cons c word ih =>
    intro read rest
    rw [List.all_cons, Bool.and_eq_true] at all
    obtain ⟨⟨gap, quote⟩, mark⟩ : (isGap c = false ∧ c ≠ '"') ∧ mark? c = none := by
      simpa [isWord] using all.1
    have step : tokensFrom (.word read) (c :: (word ++ rest)) =
        tokensFrom (.word (c :: read)) (word ++ rest) := by
      simp [tokensFrom, gap, quote, mark]
    rw [List.cons_append, step, ih all.2]
    simp

theorem tokensFrom_wordEnd {read rest : List Char} {token : Token}
    (spelled : wordToken? read = some token) (ends : Delimited rest) :
    tokensFrom (.word read) rest = (token :: ·) <$> tokensFrom .gap rest := by
  cases rest with
  | nil => simp [tokensFrom, spelled]
  | cons c rest =>
    cases gap : isGap c with
    | true => simp [tokensFrom, gap, spelled]
    | false =>
      have marks : (mark? c).isSome := by simpa [gap] using ends c rfl
      obtain ⟨mark, found⟩ := Option.isSome_iff_exists.mp marks
      have quote : c ≠ '"' := by
        rintro rfl
        cases found
      simp [tokensFrom, gap, quote, found, spelled, Function.comp_def]

/-- A word that spells a document is its token. -/
theorem tokensFrom_spelledWord {word rest : List Char} {document : Json} (nonempty : word ≠ [])
    (all : word.all isWord = true) (spelled : word? word = some document)
    (ends : Delimited rest) :
    tokensFrom .gap (word ++ rest) = (.atom document :: ·) <$> tokensFrom .gap rest := by
  obtain ⟨c, behind, rfl⟩ := List.exists_cons_of_ne_nil nonempty
  rw [List.all_cons, Bool.and_eq_true] at all
  obtain ⟨⟨gap, quote⟩, mark⟩ : (isGap c = false ∧ c ≠ '"') ∧ mark? c = none := by
    simpa [isWord] using all.1
  have begins : tokensFrom .gap (c :: (behind ++ rest)) =
      tokensFrom (.word [c]) (behind ++ rest) := by
    simp [tokensFrom, gap, quote, mark]
  rw [List.cons_append, begins, tokensFrom_word all.2]
  apply tokensFrom_wordEnd _ ends
  simp [wordToken?, spelled]

mutual
def tokens : Json → List Token
  | .str content => [.text content]
  | .arr items => .openArray :: (itemTokens items ++ [.closeArray])
  | .obj entries => .openObject :: (entryTokens entries ++ [.closeObject])
  | document => [.atom document]

def itemTokens : List Json → List Token
  | [] => []
  | item :: rest => tokens item ++ furtherTokens rest

def furtherTokens : List Json → List Token
  | [] => []
  | item :: rest => .comma :: (tokens item ++ furtherTokens rest)

def entryTokens : List (String × Json) → List Token
  | [] => []
  | (key, item) :: rest => .text key :: .colon :: (tokens item ++ furtherEntryTokens rest)

def furtherEntryTokens : List (String × Json) → List Token
  | [] => []
  | (key, item) :: rest =>
    .comma :: .text key :: .colon :: (tokens item ++ furtherEntryTokens rest)
end

/-- Characters that come to tokens, wherever what follows may follow them. -/
def ComesTo (chars : List Char) (tokens : List Token) : Prop :=
  ∀ rest, Delimited rest → tokensFrom .gap (chars ++ rest) = (tokens ++ ·) <$> tokensFrom .gap rest

theorem tokensFrom_gap {c : Char} (blank : isGap c = true) (rest : List Char) :
    tokensFrom .gap (c :: rest) = tokensFrom .gap rest := by
  simp [tokensFrom, blank]

theorem tokensFrom_gaps {gap : List Char} (blank : gap.all isGap) (rest : List Char) :
    tokensFrom .gap (gap ++ rest) = tokensFrom .gap rest := by
  induction gap with
  | nil => rfl
  | cons c gap ih =>
    rw [List.all_cons, Bool.and_eq_true] at blank
    rw [List.cons_append, tokensFrom_gap blank.1, ih blank.2]

theorem tokensFrom_mark {c : Char} {mark : Token} (gap : isGap c = false)
    (marks : mark? c = some mark) (rest : List Char) :
    tokensFrom .gap (c :: rest) = (mark :: ·) <$> tokensFrom .gap rest := by
  have quote : c ≠ '"' := by
    rintro rfl
    cases marks
  simp [tokensFrom, gap, quote, marks]

theorem ComesTo.word {word : List Char} {document : Json} (nonempty : word ≠ [])
    (all : word.all isWord = true) (spelled : word? word = some document) :
    ComesTo word [.atom document] := by
  intro rest ends
  exact tokensFrom_spelledWord nonempty all spelled ends

theorem ComesTo.quoted {inside : List Char} {content : String}
    (escaped : Escape.Spells inside content.toList) :
    ComesTo ('"' :: (inside ++ ['"'])) [.text content] := by
  intro rest _
  have closed : tokensFrom .gap ('"' :: (inside ++ '"' :: rest)) =
      tokensFrom (.quoted inside.reverse) ('"' :: rest) := by
    have opened : tokensFrom .gap ('"' :: (inside ++ '"' :: rest)) =
        tokensFrom (.quoted []) (inside ++ '"' :: rest) := by
      simp [tokensFrom, isGap]
    rw [opened, tokensFrom_quoted escaped, List.append_nil]
  have token : textToken? inside.reverse = some (.text content) := by
    simp [textToken?, Escape.decode?_spelled escaped]
  have whole : '"' :: (inside ++ ['"']) ++ rest = '"' :: (inside ++ '"' :: rest) := by simp
  rw [whole, closed]
  simp [tokensFrom, token]

theorem ComesTo.between {first last : Char} {opens closes : Token} {chars : List Char}
    {inside : List Token} (opensGap : isGap first = false) (opensMark : mark? first = some opens)
    (closesGap : isGap last = false) (closesMark : mark? last = some closes)
    (comes : ComesTo chars inside) :
    ComesTo (first :: (chars ++ [last])) (opens :: (inside ++ [closes])) := by
  intro rest _
  have ends : Delimited (last :: rest) := delimited_mark (by simp [closesMark]) rest
  have whole : first :: (chars ++ [last]) ++ rest = first :: (chars ++ last :: rest) := by simp
  rw [whole, tokensFrom_mark opensGap opensMark, comes _ ends, tokensFrom_mark closesGap closesMark]
  simp [Function.comp_def]

theorem ComesTo.append {c : Char} {mark : Token} {first second : List Char}
    {left right : List Token} (gap : isGap c = false) (marks : mark? c = some mark)
    (here : ComesTo first left) (there : ComesTo second right) :
    ComesTo (first ++ c :: second) (left ++ mark :: right) := by
  intro rest ends
  have between : Delimited (c :: (second ++ rest)) := delimited_mark (by simp [marks]) _
  rw [List.append_assoc, List.cons_append, here _ between, tokensFrom_mark gap marks, there _ ends]
  simp [Function.comp_def]

theorem ComesTo.gap {gap : List Char} (blank : gap.all isGap) : ComesTo gap [] := by
  intro rest _
  rw [tokensFrom_gaps blank]
  simp

theorem tokens_number (numeral : Decimal.Numeral) :
    numeral.document.tokens = [.atom numeral.document] := by
  unfold Decimal.Numeral.document
  split <;> rfl

theorem furtherTokens_eq {longest : ℕ∞} {chars : List Char} {items : List Json}
    (spelled : SpellsItems longest chars items) :
    furtherTokens items = .comma :: itemTokens items := by
  cases spelled <;> rfl

theorem furtherEntryTokens_eq {longest : ℕ∞} {chars : List Char} {entries : List (String × Json)}
    (spelled : SpellsEntries longest chars entries) :
    furtherEntryTokens entries = .comma :: entryTokens entries := by
  cases spelled <;> rfl

mutual
/-- Characters that spell a document come to its tokens. -/
theorem comesTo_tokens {chars : List Char} {document : Json} :
    Spells Decimal.integerLimit chars document → ComesTo chars document.tokens
  | .null => .word (by simp) rfl rfl
  | .true => .word (by simp) rfl rfl
  | .false => .word (by simp) rfl rfl
  | .number standard short marked => by
    have within := number?_spelled standard (Nat.cast_le.mp short) marked
    rw [tokens_number]
    exact .word (Decimal.Numeral.spelled_ne_nil standard) (isWord_number standard marked)
      (word?_of_number? within)
  | .text escaped => .quoted escaped
  | .emptyArray blank => .between rfl rfl rfl rfl (.gap blank)
  | .array inside => .between rfl rfl rfl rfl (comesTo_itemTokens inside)
  | .emptyObject blank => .between rfl rfl rfl rfl (.gap blank)
  | .object inside => .between rfl rfl rfl rfl (comesTo_entryTokens inside)
  | .before blank spelled => by
    intro rest ends
    rw [List.cons_append, tokensFrom_gap blank, comesTo_tokens spelled rest ends]
  | .after blank spelled => by
    intro rest ends
    rw [List.append_assoc, List.singleton_append,
      comesTo_tokens spelled _ (delimited_gap blank rest), tokensFrom_gap blank]

theorem comesTo_itemTokens {chars : List Char} {items : List Json} :
    SpellsItems Decimal.integerLimit chars items → ComesTo chars (itemTokens items)
  | .last spelled => by
    rw [itemTokens, furtherTokens, List.append_nil]
    exact comesTo_tokens spelled
  | .more spelled behind => by
    rw [itemTokens, furtherTokens_eq behind]
    exact (comesTo_tokens spelled).append rfl rfl (comesTo_itemTokens behind)

theorem comesTo_entryTokens {chars : List Char} {entries : List (String × Json)} :
    SpellsEntries Decimal.integerLimit chars entries → ComesTo chars (entryTokens entries)
  | .last named spelled => by
    rw [entryTokens, furtherEntryTokens, List.append_nil]
    exact (comesTo_tokens named).append rfl rfl (comesTo_tokens spelled)
  | .more named spelled behind => by
    rw [entryTokens, furtherEntryTokens_eq behind]
    exact (comesTo_tokens named).append rfl rfl
      ((comesTo_tokens spelled).append rfl rfl (comesTo_entryTokens behind))
end

namespace Machine

variable {limit : Nat}

/-- A container that may still be closed takes the first token of a document as any value. -/
theorem run_valueOrClose {stack : List Frame} (room : stack.length ≤ limit) (document : Json)
    (more : List Token) :
    run limit ⟨.valueOrClose, stack⟩ (document.tokens ++ more) =
      run limit ⟨.value, stack⟩ (document.tokens ++ more) := by
  cases document <;> simp [tokens, run, step, room]

theorem depth_pos (document : Json) : 0 < document.depth := by
  cases document <;> simp [depth]

theorem run_keyOrClose {stack : List Frame} (room : stack.length < limit) (key : String)
    (more : List Token) :
    run limit ⟨.keyOrClose, .object [] :: stack⟩ (.text key :: .colon :: more) =
      run limit ⟨.value, .field [] key :: stack⟩ more := by
  have within : stack.length + 1 ≤ limit := room
  simp [run, step, within]

mutual
/-- The machine puts a document together from its tokens and hands it on. -/
theorem run_tokens : (document : Json) → ∀ stack more,
    stack.length + document.depth ≤ limit + 1 →
    run limit ⟨.value, stack⟩ (document.tokens ++ more) = run limit (deliver document stack) more
  | .null | .bool _ | .int _ | .float _ | .str _ => fun _ _ _ => rfl
  | .arr [] => fun _ _ _ => rfl
  | .obj [] => fun _ _ _ => rfl
  | .arr (item :: rest) => by
    intro stack more shallow
    rw [depth, itemsDepth] at shallow
    have some := depth_pos item
    have room : (Frame.array [] :: stack).length ≤ limit := by
      rw [List.length_cons]
      omega
    have opened : run limit ⟨.value, stack⟩ (tokens (.arr (item :: rest)) ++ more) =
        run limit ⟨.valueOrClose, .array [] :: stack⟩
          (item.tokens ++ (furtherTokens rest ++ .closeArray :: more)) := by
      simp [tokens, itemTokens, run, step, begin]
    have first := run_tokens item (.array [] :: stack)
      (furtherTokens rest ++ .closeArray :: more) (by rw [List.length_cons]; omega)
    rw [opened, run_valueOrClose room, first]
    exact run_furtherTokens rest [item] stack more (by omega)
  | .obj ((key, item) :: rest) => by
    intro stack more shallow
    rw [depth, entriesDepth] at shallow
    have some := depth_pos item
    have opened : run limit ⟨.value, stack⟩ (tokens (.obj ((key, item) :: rest)) ++ more) =
        run limit ⟨.keyOrClose, .object [] :: stack⟩
          (.text key :: .colon ::
            (item.tokens ++ (furtherEntryTokens rest ++ .closeObject :: more))) := by
      simp [tokens, entryTokens, run, step, begin]
    have first := run_tokens item (.field [] key :: stack)
      (furtherEntryTokens rest ++ .closeObject :: more) (by rw [List.length_cons]; omega)
    rw [opened, run_keyOrClose (by omega), first]
    exact run_furtherEntryTokens rest [(key, item)] stack more (by omega)

theorem run_furtherTokens : (items : List Json) → ∀ read outer more,
    outer.length + 1 + itemsDepth items ≤ limit + 1 →
    run limit ⟨.separator, .array read :: outer⟩ (furtherTokens items ++ .closeArray :: more) =
      run limit (deliver (.arr (read.reverse ++ items)) outer) more
  | [] => by
    intro read outer more _
    rw [List.append_nil]
    rfl
  | item :: rest => by
    intro read outer more shallow
    rw [itemsDepth] at shallow
    have separated : run limit ⟨.separator, .array read :: outer⟩
          (furtherTokens (item :: rest) ++ .closeArray :: more) =
        run limit ⟨.value, .array read :: outer⟩
          (item.tokens ++ (furtherTokens rest ++ .closeArray :: more)) := by
      simp [furtherTokens, run, step]
    have first := run_tokens item (.array read :: outer)
      (furtherTokens rest ++ .closeArray :: more) (by rw [List.length_cons]; omega)
    have others := run_furtherTokens rest (item :: read) outer more (by omega)
    rw [List.reverse_cons, List.append_assoc, List.singleton_append] at others
    rw [separated, first]
    exact others

theorem run_furtherEntryTokens : (entries : List (String × Json)) → ∀ read outer more,
    outer.length + 1 + entriesDepth entries ≤ limit + 1 →
    run limit ⟨.separator, .object read :: outer⟩
        (furtherEntryTokens entries ++ .closeObject :: more) =
      run limit (deliver (.obj (read.reverse ++ entries)) outer) more
  | [] => by
    intro read outer more _
    rw [List.append_nil]
    rfl
  | (key, item) :: rest => by
    intro read outer more shallow
    rw [entriesDepth] at shallow
    have separated : run limit ⟨.separator, .object read :: outer⟩
          (furtherEntryTokens ((key, item) :: rest) ++ .closeObject :: more) =
        run limit ⟨.value, .field read key :: outer⟩
          (item.tokens ++ (furtherEntryTokens rest ++ .closeObject :: more)) := by
      simp [furtherEntryTokens, run, step]
    have first := run_tokens item (.field read key :: outer)
      (furtherEntryTokens rest ++ .closeObject :: more) (by rw [List.length_cons]; omega)
    have others := run_furtherEntryTokens rest ((key, item) :: read) outer more (by omega)
    rw [List.reverse_cons, List.append_assoc, List.singleton_append] at others
    rw [separated, first]
    exact others
end

end Machine

/-- A text of the grammar is read as the document that it spells. -/
theorem read?_spelled {limit : Nat} {text : String} {document : Json}
    (spelled : Spells Decimal.integerLimit text.toList document)
    (shallow : document.depth ≤ limit + 1) : read? limit text = some document := by
  have comes : tokens? text.toList = some document.tokens := by
    have whole := comesTo_tokens spelled [] delimited_nil
    rw [List.append_nil] at whole
    rw [tokens?, whole]
    simp [tokensFrom]
  have together : Machine.start.run limit document.tokens = some ⟨.nothing document, []⟩ := by
    have within : ([] : List Frame).length + document.depth ≤ limit + 1 := by simpa using shallow
    have run := Machine.run_tokens document [] [] within
    rwa [List.append_nil] at run
  simp [read?, comes, together, Machine.result?]

end Transcript.Json
