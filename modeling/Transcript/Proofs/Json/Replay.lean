import Transcript.Proofs.Json.KeyOrder
import Transcript.Proofs.Json.Reading
import Transcript.Proofs.Json.Writing
import Transcript.Validation.Record

namespace Transcript.Json

open Validation (readDepth)

mutual
theorem leaves_ordered {holds : Json → Prop} : (document : Json) →
    (Leaves holds document.ordered ↔ Leaves holds document)
  | .null | .bool _ | .int _ | .float _ | .str _ => Iff.rfl
  | .arr items => itemLeaves_ordered items
  | .obj entries => by
    have perm := byKey_perm (orderedEntries entries)
    have same : EntryLeaves holds (byKey (orderedEntries entries)) ↔
        EntryLeaves holds (orderedEntries entries) := by
      simp only [entryLeaves_iff, perm.mem_iff]
    exact same.trans (entryLeaves_ordered entries)

theorem itemLeaves_ordered {holds : Json → Prop} : (items : List Json) →
    (ItemLeaves holds (orderedItems items) ↔ ItemLeaves holds items)
  | [] => Iff.rfl
  | item :: rest => and_congr (leaves_ordered item) (itemLeaves_ordered rest)

theorem entryLeaves_ordered {holds : Json → Prop} : (entries : List (String × Json)) →
    (EntryLeaves holds (orderedEntries entries) ↔ EntryLeaves holds entries)
  | [] => Iff.rfl
  | (_, item) :: rest => and_congr (leaves_ordered item) (entryLeaves_ordered rest)
end

namespace Layout

variable {layout : Layout}

/-- A part that a reader gets back from its characters. -/
def GivesBack (layout : Layout) (leaf : Json) : Prop :=
  layout.CanSpell Decimal.integerLimit leaf ∧ layout.asRead leaf = leaf

theorem GivesBack.finite {number : Float} (back : Layout.stored.GivesBack (.float number)) :
    Decimal.isFinite number = true := by
  cases finite : Decimal.isFinite number with
  | true => rfl
  | false =>
    have null : Layout.stored.asRead (.float number) = .null := by
      rw [asRead, floatChars_null rfl finite]
      rfl
    rw [back.2] at null
    cases null

/-- A part that is no float, or one that is read as it is. -/
def KeepsFloat (layout : Layout) : Json → Prop
  | .float number => layout.asRead (.float number) = .float number
  | _ => True

mutual
/-- Nothing but floats can be read as something else. -/
theorem asRead_of_keepsFloat : (document : Json) → Leaves layout.KeepsFloat document →
    layout.asRead document = document
  | .null, _ | .bool _, _ | .int _, _ | .str _, _ => rfl
  | .float _, same => same
  | .arr items, inside => congrArg Json.arr (itemsAsRead_of_keepsFloat items inside)
  | .obj entries, inside => congrArg Json.obj (entriesAsRead_of_keepsFloat entries inside)

theorem itemsAsRead_of_keepsFloat : (items : List Json) → ItemLeaves layout.KeepsFloat items →
    layout.itemsAsRead items = items
  | [], _ => rfl
  | item :: rest, inside =>
    congrArg₂ List.cons (asRead_of_keepsFloat item inside.1)
      (itemsAsRead_of_keepsFloat rest inside.2)

theorem entriesAsRead_of_keepsFloat : (entries : List (String × Json)) →
    EntryLeaves layout.KeepsFloat entries → layout.entriesAsRead entries = entries
  | [], _ => rfl
  | (key, item) :: rest, inside =>
    congrArg₂ List.cons (congrArg (Prod.mk key) (asRead_of_keepsFloat item inside.1))
      (entriesAsRead_of_keepsFloat rest inside.2)
end

theorem asRead_of_givesBack (document : Json) (back : Leaves layout.GivesBack document) :
    layout.asRead document = document := by
  apply asRead_of_keepsFloat
  refine Leaves.imp (fun leaf back => ?_) document back
  cases leaf with
  | float => exact back.2
  | null | bool | int | str | arr | obj => trivial

/-- A stored document that its characters give back is spelled by its text. -/
theorem spells_of_givesBack {document : Json} (back : Leaves Layout.stored.GivesBack document) :
    Spells Decimal.integerLimit (render .stored document).toList document := by
  have written : Leaves (Layout.stored.CanSpell Decimal.integerLimit) document :=
    Leaves.imp (fun _ back => back.1) document back
  have spelled := spells_chars stored_isStandard document written
  rw [asRead_of_givesBack document back] at spelled
  rwa [render, String.toList_ofList]

end Layout

/-- A document that comes back from its stored text: each key stands once, every number is given
back by its characters, and a reader gets to the innermost part. -/
structure Replayable (document : Json) : Prop where
  once : KeysOnce document
  back : Leaves Layout.stored.GivesBack document
  shallow : document.depth ≤ readDepth

theorem Replayable.of_agree {document other : Json} (replayable : Replayable document)
    (agree : Agree other document) : Replayable other where
  once := agree.keysOnce.mpr replayable.once
  back := by
    rw [← leaves_ordered, agree, leaves_ordered]
    exact replayable.back
  shallow := agree.depth_eq ▸ replayable.shallow

variable {items : List Json} (all : ∀ item ∈ items, Replayable item)
include all

/-- The stored text of an array of such documents spells that array. -/
theorem spells_replayable :
    Spells Decimal.integerLimit (render .stored (.arr items)).toList (.arr items) := by
  have back : Leaves Layout.stored.GivesBack (.arr items) :=
    itemLeaves_iff.mpr fun item member => (all item member).back
  exact Layout.spells_of_givesBack back

theorem read?_replayable {text : String}
    (spelled : Spells Decimal.integerLimit text.toList (.arr items)) :
    read? readDepth text = some (.arr items) := by
  refine read?_spelled spelled (Nat.succ_le_succ ?_)
  exact itemsDepth_le fun item member => (all item member).shallow

end Transcript.Json
