import Transcript.Proofs.Json.KeyOrder
import Transcript.Proofs.Json.Writing
import Transcript.Proofs.Store.Document

namespace Transcript.Json

/-- What stands under a key; of equal keys the last one counts. -/
def lastOf? (key : String) : List (String × Json) → Option Json
  | [] => none
  | (name, item) :: rest => (lastOf? key rest).or (if name = key then some item else none)

def asText? : Json → Option String
  | .str text => some text
  | _ => none

def text? (key : String) : Json → Option String
  | .obj entries => (lastOf? key entries).bind asText?
  | _ => none

variable {key : String}

theorem lastOf?_of_absent {entries : List (String × Json)}
    (absent : key ∉ entries.map Prod.fst) : lastOf? key entries = none := by
  induction entries with
  | nil => rfl
  | cons entry rest ih =>
    rw [List.map_cons, List.mem_cons, not_or] at absent
    rw [lastOf?, ih absent.2, Option.none_or, if_neg (Ne.symm absent.1)]

theorem lastOf?_of_member {entries : List (String × Json)}
    (once : (entries.map Prod.fst).Nodup) {item : Json} (member : (key, item) ∈ entries) :
    lastOf? key entries = some item := by
  induction entries with
  | nil => cases member
  | cons entry rest ih =>
    obtain ⟨absent, later⟩ := List.nodup_cons.mp once
    rcases List.mem_cons.mp member with same | inside
    · cases same
      rw [lastOf?, lastOf?_of_absent absent, Option.none_or, if_pos rfl]
    · rw [lastOf?, ih later inside, Option.some_or]

theorem collapsedEntries_eq_map (entries : List (String × Json)) :
    collapsedEntries entries = entries.map fun entry => (entry.1, entry.2.collapsed) := by
  induction entries with
  | nil => rfl
  | cons entry rest ih => rw [collapsedEntries, ih, List.map_cons]

theorem withoutNulItems_eq_map (items : List Json) :
    withoutNulItems items = items.map withoutNul := by
  induction items with
  | nil => rfl
  | cons item rest ih => rw [withoutNulItems, ih, List.map_cons]

theorem withoutNulEntries_eq_map (entries : List (String × Json)) :
    withoutNulEntries entries =
      entries.map fun entry => (textWithoutNul entry.1, entry.2.withoutNul) := by
  induction entries with
  | nil => rfl
  | cons entry rest ih => rw [withoutNulEntries, ih, List.map_cons]

/-- Entries under given names, one of which is the key of a text. -/
structure Bears (names : List String) (key text : String) (entries : List (String × Json)) :
    Prop where
  names : entries.map Prod.fst = names
  member : (key, .str text) ∈ entries

namespace Bears

variable {names : List String} {text : String} {entries : List (String × Json)}

theorem text? (bears : Bears names key text entries) (once : names.Nodup) :
    (Json.obj entries).text? key = some text := by
  have found := lastOf?_of_member (bears.names ▸ once) bears.member
  rw [Json.text?, found]
  rfl

/-- Where each name stands once, putting the entries together changes no text among them. -/
theorem collapsed (bears : Bears names key text entries) (once : names.Nodup) :
    Bears names key text (collapse (collapsedEntries entries)) := by
  have keys : (collapsedEntries entries).map Prod.fst = names := by
    rw [collapsedEntries_eq_map, List.map_map]
    exact bears.names
  rw [collapse_of_nodup (keys ▸ once)]
  refine ⟨keys, ?_⟩
  rw [collapsedEntries_eq_map]
  exact List.mem_map.mpr ⟨_, bears.member, rfl⟩

/-- Under names without U+0000 a text stays where it is, and loses U+0000. -/
theorem withoutNul (bears : Bears names key text entries)
    (plain : ∀ name ∈ names, textWithoutNul name = name) :
    Bears names key (textWithoutNul text) (withoutNulEntries entries) := by
  have same : ∀ entry ∈ entries, textWithoutNul entry.1 = entry.1 := by
    intro entry member
    apply plain
    rw [← bears.names]
    exact List.mem_map.mpr ⟨entry, member, rfl⟩
  rw [withoutNulEntries_eq_map]
  constructor
  · rw [List.map_map, ← bears.names]
    exact List.map_congr_left same
  · refine List.mem_map.mpr ⟨_, bears.member, ?_⟩
    rw [same _ bears.member]
    rfl

end Bears

theorem texts_word {chars : List Char} {document : Json} (read : word? chars = some document) :
    document.asText? = none ∧ document.text? key = none := by
  refine word?_induction ?_ ?_ ?_ ?_ read
  all_goals
    intros
    exact ⟨rfl, rfl⟩

variable (layout : Layout)

theorem texts_asRead_float (number : Float) (key : String) :
    (layout.asRead (.float number)).asText? = none ∧
      (layout.asRead (.float number)).text? key = none := by
  rw [Layout.asRead]
  cases read : word? (layout.floatChars number) with
  | none => exact ⟨rfl, rfl⟩
  | some document => exact texts_word read

theorem asText?_asRead (document : Json) : (layout.asRead document).asText? = document.asText? := by
  cases document with
  | float number => exact (texts_asRead_float layout number "").1
  | null | bool | int | str | arr | obj => rfl

theorem lastOf?_asRead (entries : List (String × Json)) :
    lastOf? key (layout.entriesAsRead entries) =
      (lastOf? key entries).map layout.asRead := by
  induction entries with
  | nil => rfl
  | cons entry rest ih =>
    obtain ⟨name, item⟩ := entry
    rw [Layout.entriesAsRead, lastOf?, lastOf?, ih]
    cases lastOf? key rest <;> by_cases same : name = key <;> simp [same]

/-- An object holds the texts that it is read with. -/
theorem text?_asRead (document : Json) :
    (layout.asRead document).text? key = document.text? key := by
  cases document with
  | float number => exact (texts_asRead_float layout number key).2
  | obj entries =>
    change (lastOf? key (layout.entriesAsRead entries)).bind asText? =
      (lastOf? key entries).bind asText?
    rw [lastOf?_asRead]
    cases lastOf? key entries with
    | none => rfl
    | some item => exact asText?_asRead layout item
  | null | bool | int | str | arr => rfl

end Transcript.Json
