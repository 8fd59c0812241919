import Transcript.Proofs.Json.KeyOrder
import Transcript.Proofs.Json.Lexed

namespace Transcript.Json

def itemsLed : List Json → List Token
  | [] => []
  | item :: rest => item.tokens ++ .comma :: itemsLed rest

def entriesLed : List (String × Json) → List Token
  | [] => []
  | (key, item) :: rest => .text key :: .colon :: (item.tokens ++ .comma :: entriesLed rest)

theorem itemTokens_snoc (items : List Json) (item : Json) :
    itemTokens (items ++ [item]) = itemsLed items ++ item.tokens := by
  induction items with
  | nil => simp [itemTokens, furtherTokens, itemsLed]
  | cons first rest ih =>
    have further : furtherTokens (rest ++ [item]) = .comma :: itemTokens (rest ++ [item]) := by
      cases rest <;> rfl
    rw [List.cons_append, itemTokens, further, ih, itemsLed]
    simp

theorem entryTokens_snoc (entries : List (String × Json)) (key : String) (item : Json) :
    entryTokens (entries ++ [(key, item)]) =
      entriesLed entries ++ .text key :: .colon :: item.tokens := by
  induction entries with
  | nil => simp [entryTokens, furtherEntryTokens, entriesLed]
  | cons first rest ih =>
    have further : furtherEntryTokens (rest ++ [(key, item)]) =
        .comma :: entryTokens (rest ++ [(key, item)]) := by
      cases rest <;> rfl
    rw [List.cons_append, entryTokens, further, ih, entriesLed]
    simp

theorem itemsLed_eq {items : List Json} (some : items ≠ []) :
    itemsLed items = itemTokens items ++ [.comma] := by
  induction items with
  | nil => exact absurd rfl some
  | cons item rest ih =>
    cases rest with
    | nil => simp [itemsLed, itemTokens, furtherTokens]
    | cons next others =>
      rw [itemsLed, ih (List.cons_ne_nil next others)]
      simp [itemTokens, furtherTokens]

theorem entriesLed_eq {entries : List (String × Json)} (some : entries ≠ []) :
    entriesLed entries = entryTokens entries ++ [.comma] := by
  induction entries with
  | nil => exact absurd rfl some
  | cons entry rest ih =>
    cases rest with
    | nil => simp [entriesLed, entryTokens, furtherEntryTokens]
    | cons next others =>
      rw [entriesLed, ih (List.cons_ne_nil next others)]
      simp [entryTokens, furtherEntryTokens]

/-- A token as it can be cut from a text: a word stands for itself, and is no longer than an
integer may be. -/
def Token.IsPlain : Token → Prop
  | .atom value => value.tokens = [.atom value] ∧ value.depth = 1 ∧ value.IsShort
  | _ => True

theorem Cut.isPlain {chars : List Char} {token : Token} (cut : Cut chars token) :
    token.IsPlain := by
  cases cut with
  | mark marks => unfold mark? at marks; split at marks <;> cases marks <;> trivial
  | text => trivial
  | word read =>
    have single : ∀ value : Json, word? chars = some value →
        value.tokens = [.atom value] ∧ value.depth = 1 := by
      intro value read
      refine word?_induction ?_ ?_ ?_ ?_ read
      all_goals
        intros
        exact ⟨rfl, rfl⟩
    exact ⟨(single _ read).1, (single _ read).2, isShort_of_word? read⟩

theorem Lexes.isPlain {chars : List Char} {tokens : List Token} (lexes : Lexes chars tokens) :
    ∀ token ∈ tokens, token.IsPlain := by
  induction lexes with
  | nothing => exact nofun
  | gap _ _ ih => exact ih
  | token cut _ ih => exact List.forall_mem_cons.mpr ⟨cut.isPlain, ih⟩

namespace Machine

/-- Open containers of which the innermost waits for a value, behind the tokens that opened and
filled them. What they hold leaves room for themselves. -/
inductive Awaits (limit : Nat) : List Frame → List Token → Prop where
  | nothing : Awaits limit [] []
  | array {outer taken items} (around : Awaits limit outer taken) (room : outer.length < limit)
      (shallow : ∀ item ∈ items, outer.length + item.depth ≤ limit) :
      Awaits limit (.array items :: outer) (taken ++ .openArray :: itemsLed items.reverse)
  | field {outer taken entries key} (around : Awaits limit outer taken)
      (room : outer.length < limit)
      (shallow : ∀ entry ∈ entries, outer.length + entry.2.depth ≤ limit) :
      Awaits limit (.field entries key :: outer)
        (taken ++ .openObject :: (entriesLed entries.reverse ++ [.text key, .colon]))

/-- What a machine has taken. -/
inductive Took (limit : Nat) : Machine → List Token → Prop where
  | value {stack taken} (around : Awaits limit stack taken) : Took limit ⟨.value, stack⟩ taken
  | valueOrClose {outer taken} (around : Awaits limit outer taken) :
      Took limit ⟨.valueOrClose, .array [] :: outer⟩ (taken ++ [.openArray])
  | keyOrClose {outer taken} (around : Awaits limit outer taken) :
      Took limit ⟨.keyOrClose, .object [] :: outer⟩ (taken ++ [.openObject])
  | key {outer taken entries} (around : Awaits limit outer taken) (room : outer.length < limit)
      (shallow : ∀ entry ∈ entries, outer.length + entry.2.depth ≤ limit) :
      Took limit ⟨.key, .object entries :: outer⟩
        (taken ++ .openObject :: entriesLed entries.reverse)
  | colon {outer taken entries key} (around : Awaits limit outer taken)
      (room : outer.length < limit)
      (shallow : ∀ entry ∈ entries, outer.length + entry.2.depth ≤ limit) :
      Took limit ⟨.colon key, .object entries :: outer⟩
        (taken ++ .openObject :: (entriesLed entries.reverse ++ [.text key]))
  | items {outer taken items} (around : Awaits limit outer taken) (some : items ≠ [])
      (shallow : ∀ item ∈ items, outer.length + item.depth ≤ limit) :
      Took limit ⟨.separator, .array items :: outer⟩
        (taken ++ .openArray :: itemTokens items.reverse)
  | entries {outer taken entries} (around : Awaits limit outer taken) (some : entries ≠ [])
      (shallow : ∀ entry ∈ entries, outer.length + entry.2.depth ≤ limit) :
      Took limit ⟨.separator, .object entries :: outer⟩
        (taken ++ .openObject :: entryTokens entries.reverse)
  | nothing {result} (shallow : result.depth ≤ limit + 1) :
      Took limit ⟨.nothing result, []⟩ result.tokens

variable {limit : Nat} {stack outer : List Frame} {taken : List Token} {machine next : Machine}
  {token : Token} {items : List Json} {entries : List (String × Json)}

theorem Awaits.room (around : Awaits limit stack taken) : stack.length ≤ limit := by
  cases around with
  | nothing => exact Nat.zero_le limit
  | array _ room _ | field _ room _ => exact room

theorem room_of_item (some : items ≠ [])
    (shallow : ∀ item ∈ items, outer.length + item.depth ≤ limit) : outer.length < limit := by
  obtain ⟨item, member⟩ := List.exists_mem_of_ne_nil items some
  have within := shallow item member
  have positive := depth_pos item
  omega

theorem room_of_entry (some : entries ≠ [])
    (shallow : ∀ entry ∈ entries, outer.length + entry.2.depth ≤ limit) :
    outer.length < limit := by
  obtain ⟨entry, member⟩ := List.exists_mem_of_ne_nil entries some
  have within := shallow entry member
  have positive := depth_pos entry.2
  omega

/-- A value that is handed on adds its tokens. -/
theorem Awaits.deliver (around : Awaits limit stack taken) (value : Json)
    (within : stack.length + value.depth ≤ limit + 1) :
    Took limit (Machine.deliver value stack) (taken ++ value.tokens) := by
  cases around with
  | nothing => exact .nothing (by simpa using within)
  | @array outer taken items around _ shallow =>
    rw [List.length_cons] at within
    have each : ∀ item ∈ value :: items, outer.length + item.depth ≤ limit :=
      List.forall_mem_cons.mpr ⟨by omega, shallow⟩
    have whole := Took.items around (List.cons_ne_nil value items) each
    rw [List.reverse_cons, itemTokens_snoc] at whole
    simpa [Machine.deliver] using whole
  | @field outer taken entries key around _ shallow =>
    rw [List.length_cons] at within
    have each : ∀ entry ∈ (key, value) :: entries, outer.length + entry.2.depth ≤ limit :=
      List.forall_mem_cons.mpr ⟨by simp only; omega, shallow⟩
    have whole := Took.entries around (List.cons_ne_nil (key, value) entries) each
    rw [List.reverse_cons, entryTokens_snoc] at whole
    simpa [Machine.deliver] using whole

theorem Awaits.begin (around : Awaits limit stack taken) (plain : token.IsPlain)
    (begun : Machine.begin stack token = some next) : Took limit next (taken ++ [token]) := by
  have room := around.room
  cases token with
  | openArray =>
    cases begun
    exact .valueOrClose around
  | openObject =>
    cases begun
    exact .keyOrClose around
  | text content =>
    cases begun
    exact around.deliver (.str content) (Nat.succ_le_succ room)
  | atom value =>
    cases begun
    rw [← plain.1]
    exact around.deliver value (by rw [plain.2.1]; omega)
  | closeArray | closeObject | comma | colon => cases begun

theorem Awaits.closeArray (around : Awaits limit outer taken)
    (shallow : ∀ item ∈ items, outer.length + item.depth ≤ limit) :
    Took limit (Machine.deliver (.arr items.reverse) outer)
      (taken ++ .openArray :: itemTokens items.reverse ++ [.closeArray]) := by
  have room := around.room
  have inside : itemsDepth items.reverse ≤ limit - outer.length := by
    refine itemsDepth_le fun item member => ?_
    have within := shallow item (List.mem_reverse.mp member)
    omega
  have whole := around.deliver (.arr items.reverse) (by rw [depth]; omega)
  simpa [tokens] using whole

theorem Awaits.closeObject (around : Awaits limit outer taken)
    (shallow : ∀ entry ∈ entries, outer.length + entry.2.depth ≤ limit) :
    Took limit (Machine.deliver (.obj entries.reverse) outer)
      (taken ++ .openObject :: entryTokens entries.reverse ++ [.closeObject]) := by
  have room := around.room
  have inside : entriesDepth entries.reverse ≤ limit - outer.length := by
    refine entriesDepth_le fun entry member => ?_
    have within := shallow entry (List.mem_reverse.mp member)
    omega
  have whole := around.deliver (.obj entries.reverse) (by rw [depth]; omega)
  simpa [tokens] using whole

/-- What a machine has taken grows by each token. -/
theorem Took.step (took : Took limit machine taken) (plain : token.IsPlain)
    (stepped : machine.step limit token = some next) : Took limit next (taken ++ [token]) := by
  cases took with
  | value around => exact around.begin plain stepped
  | @valueOrClose outer taken around =>
    have other (stepped : (if (Frame.array [] :: outer).length ≤ limit then
        Machine.begin (.array [] :: outer) token else none) = some next) :
        Took limit next (taken ++ [.openArray] ++ [token]) := by
      split at stepped
      · rename_i room
        have ready : Awaits limit (.array [] :: outer) (taken ++ [.openArray]) :=
          .array around room nofun
        exact ready.begin plain stepped
      · cases stepped
    cases token with
    | closeArray =>
      cases stepped
      exact around.closeArray nofun
    | openArray | openObject | closeObject | comma | colon | text | atom => exact other stepped
  | @keyOrClose outer taken around =>
    cases token with
    | closeObject =>
      cases stepped
      exact around.closeObject nofun
    | text key =>
      simp only [Machine.step] at stepped
      split at stepped
      · rename_i room
        cases stepped
        have named : Took limit ⟨.colon key, .object [] :: outer⟩
            (taken ++ .openObject :: ([] ++ [.text key])) := .colon around room nofun
        simpa using named
      · cases stepped
    | openArray | closeArray | openObject | comma | colon | atom => cases stepped
  | key around room shallow =>
    cases token with
    | text key =>
      cases stepped
      simpa using Took.colon around room shallow
    | openArray | closeArray | openObject | closeObject | comma | colon | atom => cases stepped
  | colon around room shallow =>
    cases token with
    | colon =>
      cases stepped
      simpa using Took.value (.field around room shallow)
    | openArray | closeArray | openObject | closeObject | comma | text | atom => cases stepped
  | items around some shallow =>
    cases token with
    | closeArray =>
      cases stepped
      exact around.closeArray shallow
    | comma =>
      cases stepped
      have whole := Took.value (.array around (room_of_item some shallow) shallow)
      rw [itemsLed_eq (by simpa using some)] at whole
      simpa using whole
    | openArray | openObject | closeObject | colon | text | atom => cases stepped
  | entries around some shallow =>
    cases token with
    | closeObject =>
      cases stepped
      exact around.closeObject shallow
    | comma =>
      cases stepped
      have whole := Took.key around (room_of_entry some shallow) shallow
      rw [entriesLed_eq (by simpa using some)] at whole
      simpa using whole
    | openArray | closeArray | openObject | colon | text | atom => cases stepped
  | nothing => cases token <;> cases stepped

theorem Took.run {rest : List Token} (took : Took limit machine taken)
    (plain : ∀ token ∈ rest, token.IsPlain) (ran : run limit machine rest = some next) :
    Took limit next (taken ++ rest) := by
  induction rest generalizing machine taken with
  | nil =>
    cases ran
    rw [List.append_nil]
    exact took
  | cons token rest ih =>
    obtain ⟨middle, stepped, ran⟩ := Option.bind_eq_some_iff.mp ran
    have here := took.step (plain token List.mem_cons_self) stepped
    have whole := ih here (fun token member => plain token (List.mem_cons_of_mem _ member)) ran
    rwa [List.append_assoc, List.singleton_append] at whole

end Machine

mutual
/-- What holds of the words among the tokens of a document holds of its parts. -/
theorem leaves_of_tokens {holds : Json → Prop} (texts : ∀ text, holds (.str text)) :
    (document : Json) → (∀ value, .atom value ∈ document.tokens → holds value) →
    Leaves holds document
  | .null, words | .bool _, words | .int _, words | .float _, words =>
    words _ List.mem_cons_self
  | .str text, _ => texts text
  | .arr items, words => itemLeaves_of_tokens texts items fun value member =>
    words value (List.mem_cons_of_mem _ (List.mem_append_left _ member))
  | .obj entries, words => entryLeaves_of_tokens texts entries fun value member =>
    words value (List.mem_cons_of_mem _ (List.mem_append_left _ member))

theorem itemLeaves_of_tokens {holds : Json → Prop} (texts : ∀ text, holds (.str text)) :
    (items : List Json) → (∀ value, .atom value ∈ itemTokens items → holds value) →
    ItemLeaves holds items
  | [], _ => trivial
  | item :: rest, words => by
    refine ⟨leaves_of_tokens texts item fun value member =>
      words value (List.mem_append_left _ member), ?_⟩
    refine itemLeaves_of_tokens texts rest fun value member => ?_
    refine words value (List.mem_append_right _ ?_)
    cases rest with
    | nil => cases member
    | cons next others => exact List.mem_cons_of_mem _ member

theorem entryLeaves_of_tokens {holds : Json → Prop} (texts : ∀ text, holds (.str text)) :
    (entries : List (String × Json)) →
    (∀ value, .atom value ∈ entryTokens entries → holds value) → EntryLeaves holds entries
  | [], _ => trivial
  | (key, item) :: rest, words => by
    have behind : ∀ value, .atom value ∈ item.tokens ++ furtherEntryTokens rest → holds value :=
      fun value member => words value (List.mem_cons_of_mem _ (List.mem_cons_of_mem _ member))
    refine ⟨leaves_of_tokens texts item fun value member =>
      behind value (List.mem_append_left _ member), ?_⟩
    refine entryLeaves_of_tokens texts rest fun value member => ?_
    refine behind value (List.mem_append_right _ ?_)
    cases rest with
    | nil => cases member
    | cons next others => exact List.mem_cons_of_mem _ member
end

variable {limit : Nat} {text : String} {document : Json}

/-- What is read has the tokens that its text is cut into, and keeps within the limits. -/
theorem read?_eq_some (read : read? limit text = some document) :
    Lexes text.toList document.tokens ∧ document.depth ≤ limit + 1 := by
  simp only [read?, Option.bind_eq_bind, Option.bind_eq_some_iff] at read
  obtain ⟨tokens, cut, machine, ran, ends⟩ := read
  have lexes : Lexes text.toList tokens := lexes_of_tokensFrom cut
  have took : Machine.Took limit machine tokens :=
    (Machine.Took.value .nothing).run lexes.isPlain ran
  cases took with
  | nothing shallow =>
    cases ends
    exact ⟨lexes, shallow⟩
  | _ => cases ends

theorem isShort_of_read? (read : read? limit text = some document) :
    Leaves IsShort document := by
  have plain := (read?_eq_some read).1.isPlain
  exact leaves_of_tokens (fun _ => trivial) document fun value member =>
    (plain (.atom value) member).2.2

/-- The reader takes the texts that spell a document within its limits. -/
theorem read?_eq_some_iff (numbers : Leaves IsNumber document) :
    read? limit text = some document ↔
      Spells Decimal.integerLimit text.toList document ∧ document.depth ≤ limit + 1 := by
  constructor
  · intro read
    obtain ⟨lexes, shallow⟩ := read?_eq_some read
    exact ⟨spells_of_lexes document numbers lexes, shallow⟩
  · exact fun ⟨spelled, shallow⟩ => read?_spelled spelled shallow

end Transcript.Json
