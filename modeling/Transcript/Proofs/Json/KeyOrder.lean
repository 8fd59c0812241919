import Mathlib.Data.List.Nodup
import Transcript.Json

/-! Documents up to the order of their keys. Whoever keeps an object need not keep the order of
its entries; two documents that agree once all entries stand in the order of their keys are the
same to everyone who looks entries up by their keys. -/

namespace Transcript

variable {α : Type}

theorem putText_of_absent {entries : List (String × α)} {key : String}
    (absent : key ∉ entries.map Prod.fst) (value : α) :
    putText entries key value = entries ++ [(key, value)] := by
  have none : (entries.any fun entry => entry.1 == key) = false := by
    rw [List.any_eq_false]
    intro entry member same
    exact absent (List.mem_map.mpr ⟨entry, member, by simpa using same⟩)
  simp [putText, none]

/-- Where no key comes twice, entries stay as they are. -/
theorem collapse_of_nodup {entries : List (String × α)}
    (once : (entries.map Prod.fst).Nodup) : collapse entries = entries := by
  have grown (built rest : List (String × α))
      (once : ((built ++ rest).map Prod.fst).Nodup) :
      rest.foldl (fun built entry => putText built entry.1 entry.2) built = built ++ rest := by
    induction rest generalizing built with
    | nil => simp
    | cons entry rest ih =>
      have absent : entry.1 ∉ built.map Prod.fst := by
        intro member
        rw [List.map_append, List.nodup_append] at once
        exact once.2.2 entry.1 member entry.1 (by simp) rfl
      rw [List.foldl_cons, putText_of_absent absent]
      have later := ih (built ++ [entry]) (by simpa using once)
      simpa using later
  simpa [collapse] using grown [] entries (by simpa using once)

theorem mem_of_mem_collapse {entries : List (String × α)} {entry : String × α}
    (left : entry ∈ collapse entries) : entry ∈ entries := by
  have put {built : List (String × α)} {key : String} {value : α}
      (left : entry ∈ putText built key value) : entry ∈ built ∨ entry = (key, value) := by
    unfold putText at left
    split at left
    · obtain ⟨old, member, same⟩ := List.mem_map.mp left
      split at same
      · exact .inr same.symm
      · exact .inl (same ▸ member)
    · simpa using left
  have grown (built rest : List (String × α))
      (left : entry ∈ rest.foldl (fun built entry => putText built entry.1 entry.2) built) :
      entry ∈ built ∨ entry ∈ rest := by
    induction rest generalizing built with
    | nil => exact .inl left
    | cons first rest ih =>
      rcases ih _ left with here | later
      · apply (put here).imp id
        rintro rfl
        exact List.mem_cons_self
      · exact .inr (List.mem_cons_of_mem _ later)
  simpa using grown [] entries left

namespace Json

mutual
/-- Every object in a document has each key once. -/
def KeysOnce : Json → Prop
  | .arr items => ItemsKeysOnce items
  | .obj entries => (entries.map Prod.fst).Nodup ∧ EntriesKeysOnce entries
  | _ => True

def ItemsKeysOnce : List Json → Prop
  | [] => True
  | item :: rest => KeysOnce item ∧ ItemsKeysOnce rest

def EntriesKeysOnce : List (String × Json) → Prop
  | [] => True
  | (_, item) :: rest => KeysOnce item ∧ EntriesKeysOnce rest
end

/-- A document that holds no others. -/
def IsLeaf : Json → Prop
  | .arr _ | .obj _ => False
  | _ => True

theorem IsLeaf.depth_eq {document : Json} (isLeaf : document.IsLeaf) : document.depth = 1 := by
  cases document with
  | arr | obj => exact isLeaf.elim
  | null | bool | int | float | str => rfl

theorem IsLeaf.keysOnce {document : Json} (isLeaf : document.IsLeaf) : KeysOnce document := by
  cases document with
  | arr | obj => exact isLeaf.elim
  | null | bool | int | float | str => trivial

def byKey (entries : List (String × Json)) : List (String × Json) :=
  entries.mergeSort fun left right => left.1 ≤ right.1

mutual
/-- A document with the entries of every object in the order of their keys. -/
def ordered : Json → Json
  | .arr items => .arr (orderedItems items)
  | .obj entries => .obj (byKey (orderedEntries entries))
  | document => document

def orderedItems : List Json → List Json
  | [] => []
  | item :: rest => ordered item :: orderedItems rest

def orderedEntries : List (String × Json) → List (String × Json)
  | [] => []
  | (key, item) :: rest => (key, ordered item) :: orderedEntries rest
end

theorem byKey_perm (entries : List (String × Json)) : (byKey entries).Perm entries :=
  List.mergeSort_perm entries _

theorem orderedItems_eq_map (items : List Json) : orderedItems items = items.map ordered := by
  induction items with
  | nil => rfl
  | cons item rest ih => rw [orderedItems, ih, List.map_cons]

theorem orderedEntries_eq_map (entries : List (String × Json)) :
    orderedEntries entries = entries.map fun entry => (entry.1, ordered entry.2) := by
  induction entries with
  | nil => rfl
  | cons entry rest ih => rw [orderedEntries, ih, List.map_cons]

theorem itemsKeysOnce_iff {items : List Json} :
    ItemsKeysOnce items ↔ ∀ item ∈ items, KeysOnce item := by
  induction items with
  | nil => simp [ItemsKeysOnce]
  | cons item rest ih => simp [ItemsKeysOnce, ih]

theorem entriesKeysOnce_iff {entries : List (String × Json)} :
    EntriesKeysOnce entries ↔ ∀ entry ∈ entries, KeysOnce entry.2 := by
  induction entries with
  | nil => simp [EntriesKeysOnce]
  | cons entry rest ih => simp [EntriesKeysOnce, ih]

@[simp] theorem keys_orderedEntries (entries : List (String × Json)) :
    (orderedEntries entries).map Prod.fst = entries.map Prod.fst := by
  simp [orderedEntries_eq_map]

mutual
theorem keysOnce_ordered : (document : Json) → (KeysOnce document.ordered ↔ KeysOnce document)
  | .null | .bool _ | .int _ | .float _ | .str _ => Iff.rfl
  | .arr items => itemsKeysOnce_ordered items
  | .obj entries => by
    have perm := byKey_perm (orderedEntries entries)
    have keys : ((byKey (orderedEntries entries)).map Prod.fst).Nodup ↔
        (entries.map Prod.fst).Nodup := by
      rw [(perm.map Prod.fst).nodup_iff, keys_orderedEntries]
    have values : EntriesKeysOnce (byKey (orderedEntries entries)) ↔
        EntriesKeysOnce (orderedEntries entries) := by
      simp only [entriesKeysOnce_iff, perm.mem_iff]
    exact and_congr keys (values.trans (entriesKeysOnce_ordered entries))

theorem itemsKeysOnce_ordered :
    (items : List Json) → (ItemsKeysOnce (orderedItems items) ↔ ItemsKeysOnce items)
  | [] => Iff.rfl
  | item :: rest => and_congr (keysOnce_ordered item) (itemsKeysOnce_ordered rest)

theorem entriesKeysOnce_ordered : (entries : List (String × Json)) →
    (EntriesKeysOnce (orderedEntries entries) ↔ EntriesKeysOnce entries)
  | [] => Iff.rfl
  | (_, item) :: rest => and_congr (keysOnce_ordered item) (entriesKeysOnce_ordered rest)
end

mutual
theorem collapsed_of_keysOnce : (document : Json) → KeysOnce document →
    document.collapsed = document
  | .null, _ | .bool _, _ | .int _, _ | .float _, _ | .str _, _ => rfl
  | .arr items, once => congrArg Json.arr (collapsedItems_of_keysOnce items once)
  | .obj entries, once => by
    rw [collapsed, collapsedEntries_of_keysOnce entries once.2, collapse_of_nodup once.1]

theorem collapsedItems_of_keysOnce : (items : List Json) → ItemsKeysOnce items →
    collapsedItems items = items
  | [], _ => rfl
  | item :: rest, once =>
    congrArg₂ List.cons (collapsed_of_keysOnce item once.1)
      (collapsedItems_of_keysOnce rest once.2)

theorem collapsedEntries_of_keysOnce : (entries : List (String × Json)) →
    EntriesKeysOnce entries → collapsedEntries entries = entries
  | [], _ => rfl
  | (key, item) :: rest, once =>
    congrArg₂ List.cons (congrArg (Prod.mk key) (collapsed_of_keysOnce item once.1))
      (collapsedEntries_of_keysOnce rest once.2)
end

theorem depth_le_of_member {entries : List (String × Json)} {key : String} {item : Json}
    (member : (key, item) ∈ entries) : item.depth ≤ entriesDepth entries := by
  induction entries with
  | nil => cases member
  | cons entry rest ih =>
    obtain ⟨name, first⟩ := entry
    rw [entriesDepth]
    rcases List.mem_cons.mp member with same | later
    · cases same
      exact Nat.le_max_left _ _
    · exact Nat.le_trans (ih later) (Nat.le_max_right _ _)

theorem itemsDepth_le {items : List Json} {bound : Nat}
    (each : ∀ item ∈ items, item.depth ≤ bound) : itemsDepth items ≤ bound := by
  induction items with
  | nil => exact Nat.zero_le bound
  | cons item rest ih =>
    exact Nat.max_le.mpr ⟨each item List.mem_cons_self,
      ih fun item member => each item (List.mem_cons_of_mem _ member)⟩

theorem entriesDepth_le {entries : List (String × Json)} {bound : Nat}
    (each : ∀ entry ∈ entries, entry.2.depth ≤ bound) : entriesDepth entries ≤ bound := by
  induction entries with
  | nil => exact Nat.zero_le bound
  | cons entry rest ih =>
    exact Nat.max_le.mpr ⟨each entry List.mem_cons_self,
      ih fun entry member => each entry (List.mem_cons_of_mem _ member)⟩

theorem entriesDepth_perm {entries others : List (String × Json)} (perm : entries.Perm others) :
    entriesDepth entries = entriesDepth others := by
  induction perm with
  | nil => rfl
  | cons entry _ ih => rw [entriesDepth, entriesDepth, ih]
  | swap first second rest =>
    simp only [entriesDepth]
    omega
  | trans _ _ first second => exact first.trans second

mutual
theorem depth_ordered : (document : Json) → document.ordered.depth = document.depth
  | .null | .bool _ | .int _ | .float _ | .str _ => rfl
  | .arr items => congrArg (· + 1) (itemsDepth_ordered items)
  | .obj entries =>
    congrArg (· + 1)
      ((entriesDepth_perm (byKey_perm (orderedEntries entries))).trans
        (entriesDepth_ordered entries))

theorem itemsDepth_ordered : (items : List Json) →
    itemsDepth (orderedItems items) = itemsDepth items
  | [] => rfl
  | item :: rest => congrArg₂ max (depth_ordered item) (itemsDepth_ordered rest)

theorem entriesDepth_ordered : (entries : List (String × Json)) →
    entriesDepth (orderedEntries entries) = entriesDepth entries
  | [] => rfl
  | (_, item) :: rest => congrArg₂ max (depth_ordered item) (entriesDepth_ordered rest)
end

/-- Two documents agree once the entries of their objects are in order. -/
def Agree (left right : Json) : Prop := left.ordered = right.ordered

theorem Agree.keysOnce {left right : Json} (agree : Agree left right) :
    KeysOnce left ↔ KeysOnce right := by
  rw [← keysOnce_ordered left, ← keysOnce_ordered right, agree]

theorem Agree.depth_eq {left right : Json} (agree : Agree left right) :
    left.depth = right.depth := by
  rw [← depth_ordered left, ← depth_ordered right, agree]

/-- Only an object agrees with an object, and the two have the same entries in some order. -/
theorem Agree.obj {document : Json} {entries : List (String × Json)}
    (agree : Agree document (.obj entries)) :
    ∃ others, document = .obj others ∧
      (orderedEntries others).Perm (orderedEntries entries) := by
  cases document with
  | obj others =>
    refine ⟨others, rfl, ?_⟩
    have same : byKey (orderedEntries others) = byKey (orderedEntries entries) :=
      Json.obj.inj agree
    exact (byKey_perm _).symm.trans (same ▸ byKey_perm (orderedEntries entries))
  | null | bool | int | float | str | arr => cases agree

theorem Agree.refl (document : Json) : Agree document document := rfl

theorem Agree.eq_of_leaf {document leaf : Json} (agree : Agree document leaf)
    (isLeaf : leaf.IsLeaf) : document = leaf := by
  cases leaf with
  | arr | obj => exact isLeaf.elim
  | null | bool | int | float | str => cases document <;> first | exact agree | cases agree

theorem Agree.arr {document : Json} {items : List Json} (agree : Agree document (.arr items)) :
    ∃ others, document = .arr others ∧ List.Forall₂ Agree others items := by
  cases document with
  | arr others =>
    refine ⟨others, rfl, ?_⟩
    have same : orderedItems others = orderedItems items := Json.arr.inj agree
    rw [orderedItems_eq_map, orderedItems_eq_map] at same
    clear agree
    induction others generalizing items with
    | nil =>
      rw [List.map_eq_nil_iff.mp same.symm]
      exact .nil
    | cons other rest ih =>
      cases items with
      | nil => cases same
      | cons item items =>
        obtain ⟨first, later⟩ := List.cons.inj same
        exact .cons first (ih later)
  | null | bool | int | float | str | obj => cases agree

theorem Agree.items {items others : List Json} (agree : Agree (.arr others) (.arr items)) :
    List.Forall₂ Agree others items := by
  obtain ⟨_, here, each⟩ := Agree.arr agree
  cases here
  exact each

theorem Agree.append {left right lefts rights : List Json} (first : Agree (.arr lefts) (.arr left))
    (second : Agree (.arr rights) (.arr right)) :
    Agree (.arr (lefts ++ rights)) (.arr (left ++ right)) := by
  have front : orderedItems lefts = orderedItems left := Json.arr.inj first
  have behind : orderedItems rights = orderedItems right := Json.arr.inj second
  refine congrArg Json.arr ?_
  rw [orderedItems_eq_map] at front behind ⊢
  rw [orderedItems_eq_map] at front behind ⊢
  rw [List.map_append, List.map_append, front, behind]

theorem IsLeaf.ordered {document : Json} (isLeaf : document.IsLeaf) :
    document.ordered.IsLeaf := by
  cases document with
  | arr | obj => exact isLeaf.elim
  | null | bool | int | float | str => trivial

/-- Objects of leaves agree when they have the same entries in some order. -/
theorem Agree.perm_of_leaves {entries others : List (String × Json)}
    (agree : Agree (.obj others) (.obj entries))
    (leaves : ∀ entry ∈ entries, entry.2.IsLeaf) : others.Perm entries := by
  have kept (entry : String × Json) (isLeaf : entry.2.ordered.IsLeaf) :
      (entry.1, entry.2.ordered) = entry := by
    obtain ⟨key, item⟩ := entry
    cases item with
    | arr | obj => exact isLeaf.elim
    | null | bool | int | float | str => rfl
  have same : orderedEntries entries = entries := by
    rw [orderedEntries_eq_map]
    refine (List.map_congr_left fun entry member => kept entry ?_).trans (List.map_id entries)
    exact (leaves entry member).ordered
  obtain ⟨_, here, perm⟩ := Agree.obj agree
  cases here
  rw [same] at perm
  have sameOthers : orderedEntries others = others := by
    rw [orderedEntries_eq_map] at perm ⊢
    refine (List.map_congr_left fun entry member => kept entry ?_).trans (List.map_id others)
    exact leaves _ (perm.mem_iff.mp (List.mem_map.mpr ⟨entry, member, rfl⟩))
  rwa [sameOthers] at perm

/-- Of objects that agree, every entry of one has its fellow in the other. -/
theorem Agree.entry {entries others : List (String × Json)}
    (perm : (orderedEntries others).Perm (orderedEntries entries)) {key : String} {item : Json}
    (member : (key, item) ∈ entries) :
    ∃ other, (key, other) ∈ others ∧ Agree other item := by
  have here : (key, item.ordered) ∈ orderedEntries others := by
    rw [perm.mem_iff, orderedEntries_eq_map]
    exact List.mem_map.mpr ⟨(key, item), member, rfl⟩
  rw [orderedEntries_eq_map] at here
  obtain ⟨⟨name, other⟩, there, same⟩ := List.mem_map.mp here
  obtain ⟨rfl, agree⟩ := Prod.mk.inj same
  exact ⟨other, there, agree⟩

end Json

end Transcript
