import Transcript.Proofs.Counter
import Transcript.Proofs.Desk

namespace Transcript

/-- Notices that something could not be written while a message was made. -/
inductive Notice.TellsUnwritable : Notice → Prop where
  | payload (site cause : String) : TellsUnwritable (.unwritable site cause)
  | content (cause : String) : TellsUnwritable (.unwritableContent cause)
  | counted (site : String) : TellsUnwritable (Tally.notice (.unwritable site))

namespace Recording

variable {α β : Type}

/-- Work that notes nothing but what could not be written. -/
def NotesUnwritable (work : Recording α) : Prop :=
  ∀ desk, ∃ more, (work.result desk).2.notices = desk.notices ++ more ∧
    ∀ notice ∈ more, notice.TellsUnwritable

namespace NotesUnwritable

theorem pure (value : α) : NotesUnwritable (Pure.pure value) :=
  fun _ => ⟨[], (List.append_nil _).symm, nofun⟩

theorem throw (fault : Fault) : NotesUnwritable (MonadExcept.throw fault : Recording α) :=
  fun _ => ⟨[], (List.append_nil _).symm, nofun⟩

theorem bind {work : Recording α} {next : α → Recording β} (first : NotesUnwritable work)
    (later : ∀ value, NotesUnwritable (next value)) : NotesUnwritable (work >>= next) := by
  intro desk
  obtain ⟨more, noted, tells⟩ := first desk
  rw [result_bind]
  rcases reached : work.result desk with ⟨outcome, after⟩
  rw [reached] at noted
  cases outcome with
  | error fault => exact ⟨more, noted, tells⟩
  | ok value =>
    obtain ⟨others, grown, also⟩ := later value after
    refine ⟨more ++ others, ?_, fun notice member => ?_⟩
    · rw [grown, noted, List.append_assoc]
    · exact (List.mem_append.mp member).elim (tells notice) (also notice)

theorem map {work : Recording α} (f : α → β) (first : NotesUnwritable work) :
    NotesUnwritable (f <$> work) := by
  rw [map_eq_pure_bind]
  exact first.bind fun value => .pure _

theorem note {notice : Notice} (tells : notice.TellsUnwritable) :
    NotesUnwritable (Recording.note notice) :=
  fun _ => ⟨[notice], rfl, by simpa using tells⟩

theorem idOrFresh (candidate : Value) : NotesUnwritable (Recording.idOrFresh candidate) := by
  unfold Recording.idOrFresh
  split
  · exact .pure _
  · have fresh : NotesUnwritable freshId := fun _ => ⟨[], (List.append_nil _).symm, nofun⟩
    exact fresh.map _

theorem ofChecked (checked : Checked α) : NotesUnwritable (Recording.ofChecked checked) := by
  cases checked with
  | valid value => exact .pure value
  | invalid issues => exact .throw _

theorem sum_eq {work : Recording α} {adds : Notice → Int} (noted : NotesUnwritable work)
    (none : ∀ notice : Notice, notice.TellsUnwritable → adds notice = 0) (desk : Desk) :
    (work.result desk).2.sum adds = desk.sum adds := by
  obtain ⟨more, grown, tells⟩ := noted desk
  have zero := Notice.sum_eq_zero fun notice listed => none notice (tells notice listed)
  rw [Desk.sum, grown, List.map_append, List.sum_append, zero, Int.add_zero, Desk.sum]

end NotesUnwritable

end Recording

namespace Message

open Recording (NotesUnwritable)

theorem notes_payloadText (site : String) (value : Value) :
    NotesUnwritable (payloadText site value) := by
  unfold payloadText
  split
  · exact .pure _
  · exact .throw _
  · exact .bind (.note (.payload site _)) fun _ => .bind (.note (.counted site)) fun _ => .pure _

theorem notes_ofEvent (origin : Origin) (checkpointId : Value) (event : Event) :
    NotesUnwritable (ofEvent origin checkpointId event) := by
  have make (content : String) (id : Value) (extras : Mapping) (variant : Variant) :
      NotesUnwritable (some <$> make origin content id extras variant) :=
    (NotesUnwritable.ofChecked _).map _
  cases event with
  | statusUpdate | startMessage | usageUpdate => exact .pure _
  | text | thinking | stop => exact .bind (.idOrFresh _) fun _ => make _ _ _ _
  | toolUse use =>
    exact .bind (.idOrFresh _) fun _ => .bind (notes_payloadText _ _) fun _ =>
      .bind (.idOrFresh _) fun _ => make _ _ _ _

theorem notes_unwritableContent (cause : String) : NotesUnwritable (unwritableContent cause) :=
  .bind (.note (.content cause)) fun _ => .bind (.note (.counted contentSite)) fun _ => .pure _

theorem notes_partsText (parts : List Part) : NotesUnwritable (partsText parts) := by
  unfold partsText
  split
  · exact notes_payloadText _ _
  · exact notes_unwritableContent _

theorem notes_uncheckedText (content : Option Value) : NotesUnwritable (uncheckedText content) := by
  unfold uncheckedText
  split
  · exact notes_partsText _
  · exact .pure _
  · split
    · exact notes_unwritableContent _
    · exact notes_partsText _
    · exact .throw _

theorem notes_text (turn : Outgoing) : NotesUnwritable turn.text := by
  cases turn with
  | checked turn =>
    change NotesUnwritable (contentText turn.content)
    cases turn.content with
    | text content => exact .pure content
    | parts parts => exact notes_partsText parts
  | unchecked role content => exact notes_uncheckedText content

theorem notes_ofTurns (origin : Origin) (identity : Identity) (turns : List Outgoing) :
    NotesUnwritable (ofTurns origin identity turns) := by
  have role (turn : Outgoing) : NotesUnwritable (liftM turn.role : Recording Role) := by
    cases turn.role with
    | error fault => exact .throw fault
    | ok role => exact .pure role
  have one (turn : Outgoing) : NotesUnwritable (ofTurn origin identity turn) :=
    .bind (notes_text turn) fun _ => .bind (.idOrFresh _) fun _ =>
      .bind (role turn) fun _ => .ofChecked _
  induction turns with
  | nil => exact .pure []
  | cons turn rest ih => exact .bind (one turn) fun _ => .bind ih fun _ => .pure _

end Message

theorem Item.notes_message (origin : Origin) (checkpointId : Value) (item : Item) :
    Recording.NotesUnwritable (item.message origin checkpointId) := by
  cases item with
  | event event => exact Message.notes_ofEvent origin checkpointId event
  | failure | other => exact .bind (.idOrFresh _) fun _ => .throw _

end Transcript
