import Transcript.Proofs.Json.FreeForm
import Transcript.Proofs.Json.Texts

namespace Transcript

section Entries

variable {α β : Type}

theorem keys_putText (entries : List (String × α)) (key : String) (value : α) :
    (putText entries key value).map Prod.fst =
      if key ∈ entries.map Prod.fst then entries.map Prod.fst
      else entries.map Prod.fst ++ [key] := by
  have listed : (entries.any fun entry => entry.1 == key) = true ↔ key ∈ entries.map Prod.fst := by
    simp [List.any_eq_true]
  unfold putText
  by_cases member : key ∈ entries.map Prod.fst
  · rw [if_pos (listed.mpr member), if_pos member, List.map_map]
    apply List.map_congr_left
    intro entry _
    by_cases here : entry.1 = key <;> simp [here]
  · rw [if_neg (mt listed.mp member), if_neg member, List.map_append]
    rfl

theorem nodup_collapse (entries : List (String × α)) :
    ((collapse entries).map Prod.fst).Nodup := by
  have grown (built rest : List (String × α)) (once : (built.map Prod.fst).Nodup) :
      ((rest.foldl (fun built entry => putText built entry.1 entry.2) built).map
        Prod.fst).Nodup := by
    induction rest generalizing built with
    | nil => exact once
    | cons entry rest ih =>
      apply ih
      rw [keys_putText]
      split
      · exact once
      · rename_i absent
        rw [← List.concat_eq_append]
        exact once.concat absent
  exact grown [] entries List.nodup_nil

/-- What is done to the values makes no difference to which of them are left. -/
theorem collapse_map (change : α → β) (entries : List (String × α)) :
    collapse (entries.map fun entry => (entry.1, change entry.2)) =
      (collapse entries).map fun entry => (entry.1, change entry.2) := by
  have put (built : List (String × α)) (key : String) (value : α) :
      putText (built.map fun entry => (entry.1, change entry.2)) key (change value) =
        (putText built key value).map fun entry => (entry.1, change entry.2) := by
    have same : ((built.map fun entry => (entry.1, change entry.2)).any fun entry =>
        entry.1 == key) = built.any fun entry => entry.1 == key := by
      rw [List.any_map]
      rfl
    unfold putText
    rw [same]
    split
    · rw [List.map_map, List.map_map]
      apply List.map_congr_left
      intro entry _
      by_cases here : entry.1 = key <;> simp [here]
    · rw [List.map_append]
      rfl
  have grown (built rest : List (String × α)) :
      (rest.map fun entry => (entry.1, change entry.2)).foldl
          (fun built entry => putText built entry.1 entry.2)
          (built.map fun entry => (entry.1, change entry.2)) =
        (rest.foldl (fun built entry => putText built entry.1 entry.2) built).map
          fun entry => (entry.1, change entry.2) := by
    induction rest generalizing built with
    | nil => rfl
    | cons entry rest ih => rw [List.map_cons, List.foldl_cons, put, ih, List.foldl_cons]
  exact grown [] entries

end Entries

namespace Json

mutual
theorem keysOnce_collapsed : (document : Json) → KeysOnce document.collapsed
  | .null | .bool _ | .int _ | .float _ | .str _ => trivial
  | .arr items => itemsKeysOnce_collapsed items
  | .obj entries => by
    refine ⟨nodup_collapse _, entriesKeysOnce_iff.mpr fun entry left => ?_⟩
    exact entriesKeysOnce_iff.mp (entriesKeysOnce_collapsed entries) entry
      (mem_of_mem_collapse left)

theorem itemsKeysOnce_collapsed : (items : List Json) → ItemsKeysOnce (collapsedItems items)
  | [] => trivial
  | item :: rest => ⟨keysOnce_collapsed item, itemsKeysOnce_collapsed rest⟩

theorem entriesKeysOnce_collapsed : (entries : List (String × Json)) →
    EntriesKeysOnce (collapsedEntries entries)
  | [] => trivial
  | (_, item) :: rest => ⟨keysOnce_collapsed item, entriesKeysOnce_collapsed rest⟩
end

theorem toMapping_collapse (entries : List (String × Json)) :
    toMapping (collapse entries) = collapse (toMapping entries) := by
  rw [toMapping_eq_map, toMapping_eq_map, collapse_map]

mutual
theorem toValue_collapsed : (document : Json) → document.collapsed.toValue = document.toValue
  | .null | .bool _ | .int _ | .float _ | .str _ => rfl
  | .arr items => congrArg Value.list (toValues_collapsed items)
  | .obj entries => by
    rw [collapsed, toValue, toValue, toMapping_collapse, toMapping_collapsed entries,
      collapse_of_nodup (nodup_collapse _)]

theorem toValues_collapsed : (items : List Json) →
    toValues (collapsedItems items) = toValues items
  | [] => rfl
  | item :: rest => congrArg₂ List.cons (toValue_collapsed item) (toValues_collapsed rest)

theorem toMapping_collapsed : (entries : List (String × Json)) →
    toMapping (collapsedEntries entries) = toMapping entries
  | [] => rfl
  | (key, item) :: rest =>
    congrArg₂ List.cons (congrArg (Prod.mk key) (toValue_collapsed item))
      (toMapping_collapsed rest)
end

mutual
theorem depth_collapsed_le : (document : Json) → document.collapsed.depth ≤ document.depth
  | .null | .bool _ | .int _ | .float _ | .str _ => Nat.le_refl _
  | .arr items => Nat.succ_le_succ (itemsDepth_collapsed_le items)
  | .obj entries => by
    refine Nat.succ_le_succ (entriesDepth_le fun entry left => ?_)
    exact depth_collapsedEntries_le entries entry (mem_of_mem_collapse left)

theorem itemsDepth_collapsed_le : (items : List Json) →
    itemsDepth (collapsedItems items) ≤ itemsDepth items
  | [] => Nat.le_refl _
  | item :: rest => max_le_max (depth_collapsed_le item) (itemsDepth_collapsed_le rest)

theorem depth_collapsedEntries_le : (entries : List (String × Json)) →
    ∀ entry ∈ collapsedEntries entries, entry.2.depth ≤ entriesDepth entries
  | [] => fun _ member => nomatch member
  | (_, item) :: rest => by
    intro entry member
    rw [entriesDepth]
    rcases List.mem_cons.mp member with rfl | later
    · exact le_max_of_le_left (depth_collapsed_le item)
    · exact le_max_of_le_right (depth_collapsedEntries_le rest entry later)
end

theorem entriesDepth_collapsed_le (entries : List (String × Json)) :
    entriesDepth (collapse (collapsedEntries entries)) ≤ entriesDepth entries :=
  entriesDepth_le fun entry left =>
    depth_collapsedEntries_le entries entry (mem_of_mem_collapse left)

variable {key name : String} {item : Json}

theorem lastOf?_append (entries : List (String × Json)) :
    lastOf? key (entries ++ [(name, item)]) =
      if name = key then some item else lastOf? key entries := by
  induction entries with
  | nil => rfl
  | cons entry rest ih =>
    rw [List.cons_append, lastOf?, ih, lastOf?]
    split <;> rfl

theorem lastOf?_isSome {entries : List (String × Json)} (listed : key ∈ entries.map Prod.fst) :
    (lastOf? key entries).isSome := by
  induction entries with
  | nil => cases listed
  | cons entry rest ih =>
    rw [lastOf?, Option.isSome_or, Bool.or_eq_true]
    rcases List.mem_cons.mp listed with here | later
    · exact .inr (by simp [here])
    · exact .inl (ih later)

/-- An entry that is put takes the place of any other under its key. -/
theorem lastOf?_putText (entries : List (String × Json)) :
    lastOf? key (putText entries name item) =
      if name = key then some item else lastOf? key entries := by
  have replaced (entries : List (String × Json)) :
      lastOf? key (entries.map fun entry => if entry.1 == name then (name, item) else entry) =
        if name = key then (lastOf? key entries).map fun _ => item else lastOf? key entries := by
    induction entries with
    | nil => simp [lastOf?]
    | cons entry rest ih =>
      rw [List.map_cons, lastOf?, ih, lastOf?]
      by_cases same : name = key
      · subst same
        by_cases here : entry.1 = name <;> cases lastOf? name rest <;> simp [here]
      · by_cases here : entry.1 = name <;> simp [here, same]
  unfold putText
  split
  · rename_i listed
    rw [replaced]
    split
    · rename_i same
      have here : key ∈ entries.map Prod.fst := by simpa [List.any_eq_true, ← same] using listed
      obtain ⟨found, last⟩ := Option.isSome_iff_exists.mp (lastOf?_isSome here)
      rw [last, Option.map_some]
    · rfl
  · exact lastOf?_append entries

/-- The value that is left under a key is the last one. -/
theorem lastOf?_collapse (entries : List (String × Json)) :
    lastOf? key (collapse entries) = lastOf? key entries := by
  have grown (built rest : List (String × Json)) :
      lastOf? key (rest.foldl (fun built entry => putText built entry.1 entry.2) built) =
        (lastOf? key rest).or (lastOf? key built) := by
    induction rest generalizing built with
    | nil => rfl
    | cons entry rest ih =>
      rw [List.foldl_cons, ih, lastOf?_putText, lastOf?, Option.or_assoc]
      congr 1
      split <;> rfl
  rw [collapse, grown, lastOf?.eq_def key [], Option.or_none]

/-- The value of an object holds the values of its entries, of equal keys the last one. -/
theorem lookup?_collapse (entries : List (String × Json)) (key : String) :
    Value.lookup? (valueEntries (collapse entries)) key = (lastOf? key entries).map toValue := by
  rw [← lastOf?_collapse]
  have once := nodup_collapse entries
  generalize collapse entries = kept at once ⊢
  induction kept with
  | nil => rfl
  | cons entry rest ih =>
    obtain ⟨name, item⟩ := entry
    obtain ⟨absent, later⟩ := List.nodup_cons.mp once
    rw [lastOf?]
    by_cases here : name = key
    · subst here
      rw [lastOf?_of_absent absent, Option.none_or, if_pos rfl]
      simp [valueEntries, toMapping, Value.lookup?, Value.sameKey]
    · rw [if_neg here, Option.or_none, ← ih later]
      simp [valueEntries, toMapping, Value.lookup?, Value.sameKey, here]

theorem toValue_eq_mapping (entries : List (String × Json)) :
    (Json.obj entries).toValue = .mapping (valueEntries (collapse entries)) := by
  rw [toValue, valueEntries, toMapping_collapse]
  rfl

theorem mem_of_lastOf? {entries : List (String × Json)} (last : lastOf? key entries = some item) :
    (key, item) ∈ entries := by
  induction entries with
  | nil => cases last
  | cons entry rest ih =>
    rcases Option.or_eq_some_iff.mp last with later | ⟨_, here⟩
    · exact List.mem_cons_of_mem _ (ih later)
    · split at here
      · rename_i same
        cases here
        exact same ▸ List.mem_cons_self
      · cases here

end Json

end Transcript
