import Transcript.Gateway

namespace Transcript

namespace Desk

def warnings (desk : Desk) : Nat := desk.notices.countP fun notice => notice.level = .warning

theorem warnings_note (desk : Desk) (notice : Notice) :
    (desk.note notice).warnings =
      desk.warnings + if notice.level = .warning then 1 else 0 := by
  simp [warnings, note, List.countP_append, List.countP_cons]

end Desk

namespace Recording

variable {α β : Type}

/-- What comes of work at a desk, and the desk afterwards. -/
def result (work : Recording α) (desk : Desk) : Except Fault α × Desk := work.run.run desk

theorem result_bind (work : Recording α) (next : α → Recording β) (desk : Desk) :
    (work >>= next).result desk = match work.result desk with
      | (.ok value, desk) => (next value).result desk
      | (.error fault, desk) => (.error fault, desk) := by
  unfold result
  simp only [ExceptT.run_bind, StateT.run_bind]
  rcases work.run.run desk with ⟨outcome, after⟩
  cases outcome <;> rfl

theorem result_map (f : α → β) (work : Recording α) (desk : Desk) :
    (f <$> work).result desk = ((work.result desk).1.map f, (work.result desk).2) := by
  rw [map_eq_pure_bind, result_bind]
  rcases work.result desk with ⟨outcome, after⟩
  cases outcome <;> rfl

/-- Work that notes no warning, and of whose desk only the number of issued identifiers shows. -/
structure Discreet (work : Recording α) : Prop where
  unwarned : ∀ desk, (work.result desk).2.warnings = desk.warnings
  byIssued : ∀ desk other, desk.issued = other.issued →
    (work.result desk).1 = (work.result other).1 ∧
      (work.result desk).2.issued = (work.result other).2.issued

namespace Discreet

theorem pure (value : α) : Discreet (Pure.pure value : Recording α) where
  unwarned _ := rfl
  byIssued _ _ same := ⟨rfl, same⟩

theorem throw (fault : Fault) : Discreet (MonadExcept.throw fault : Recording α) where
  unwarned _ := rfl
  byIssued _ _ same := ⟨rfl, same⟩

theorem bind {work : Recording α} {next : α → Recording β} (first : Discreet work)
    (later : ∀ value, Discreet (next value)) : Discreet (work >>= next) where
  unwarned desk := by
    have before := first.unwarned desk
    rw [result_bind]
    rcases reached : work.result desk with ⟨outcome, after⟩
    rw [reached] at before
    cases outcome with
    | error fault => exact before
    | ok value => exact ((later value).unwarned after).trans before
  byIssued desk other same := by
    obtain ⟨outcome, issued⟩ := first.byIssued desk other same
    rw [result_bind, result_bind]
    rcases reached : work.result desk with ⟨here, after⟩
    rcases reachedOther : work.result other with ⟨there, afterOther⟩
    rw [reached, reachedOther] at outcome issued
    cases (show here = there from outcome)
    cases here with
    | error fault => exact ⟨rfl, issued⟩
    | ok value => exact (later value).byIssued after afterOther issued

theorem map {work : Recording α} (f : α → β) (first : Discreet work) : Discreet (f <$> work) := by
  rw [map_eq_pure_bind]
  exact first.bind fun value => .pure _

theorem note {notice : Notice} (other : notice.level ≠ .warning) :
    Discreet (Recording.note notice) where
  unwarned desk := by
    have added := Desk.warnings_note desk notice
    rw [if_neg other] at added
    exact added
  byIssued _ _ same := ⟨rfl, same⟩

theorem tally (tally : Tally) : Discreet (Recording.tally tally) :=
  note (by simp [Tally.notice, Notice.level])

theorem freshId : Discreet Recording.freshId where
  unwarned _ := rfl
  byIssued desk other same := by
    refine ⟨?_, congrArg (· + 1) same⟩
    exact congrArg (fun issued => Except.ok (issuedId (issued + 1))) same

theorem idOrFresh (candidate : Value) : Discreet (Recording.idOrFresh candidate) := by
  unfold Recording.idOrFresh
  split
  · exact .pure _
  · exact freshId.map _

theorem ofChecked (checked : Checked α) : Discreet (Recording.ofChecked checked) := by
  cases checked with
  | valid value => exact .pure value
  | invalid issues => exact .throw _

end Discreet

end Recording

namespace Message

open Recording (Discreet)

theorem discreet_payloadText (site : String) (value : Value) :
    Discreet (payloadText site value) := by
  unfold payloadText
  split
  · exact .pure _
  · exact .throw _
  · exact .bind (.note (by simp [Notice.level])) fun _ => .bind (.tally _) fun _ => .pure _

theorem discreet_ofEvent (origin : Origin) (checkpointId : Value) (event : Event) :
    Discreet (ofEvent origin checkpointId event) := by
  have make (content : String) (id : Value) (extras : Mapping) (variant : Variant) :
      Discreet (some <$> make origin content id extras variant) := (Discreet.ofChecked _).map _
  cases event with
  | statusUpdate | startMessage | usageUpdate => exact .pure _
  | text | thinking | stop => exact .bind (.idOrFresh _) fun _ => make _ _ _ _
  | toolUse use =>
    exact .bind (.idOrFresh _) fun _ => .bind (discreet_payloadText _ _) fun _ =>
      .bind (.idOrFresh _) fun _ => make _ _ _ _

theorem discreet_unwritableContent (cause : String) : Discreet (unwritableContent cause) :=
  .bind (.note (by simp [Notice.level])) fun _ => .bind (.tally _) fun _ => .pure _

theorem discreet_partsText (parts : List Part) : Discreet (partsText parts) := by
  unfold partsText
  split
  · exact discreet_payloadText _ _
  · exact discreet_unwritableContent _

theorem discreet_uncheckedText (content : Option Value) : Discreet (uncheckedText content) := by
  unfold uncheckedText
  split
  · exact discreet_partsText _
  · exact .pure _
  · split
    · exact discreet_unwritableContent _
    · exact discreet_partsText _
    · exact .throw _

theorem discreet_text (turn : Outgoing) : Discreet turn.text := by
  cases turn with
  | checked turn =>
    change Discreet (contentText turn.content)
    cases turn.content with
    | text content => exact .pure content
    | parts parts => exact discreet_partsText parts
  | unchecked role content => exact discreet_uncheckedText content

theorem discreet_ofTurn (origin : Origin) (identity : Identity) (turn : Outgoing) :
    Discreet (ofTurn origin identity turn) := by
  have role : Discreet (liftM turn.role : Recording Role) := by
    cases turn.role with
    | error fault => exact .throw fault
    | ok role => exact .pure role
  exact .bind (discreet_text turn) fun _ => .bind (.idOrFresh _) fun _ =>
    .bind role fun _ => .ofChecked _

theorem discreet_ofTurns (origin : Origin) (identity : Identity) (turns : List Outgoing) :
    Discreet (ofTurns origin identity turns) := by
  induction turns with
  | nil => exact .pure []
  | cons turn rest ih =>
    exact .bind (discreet_ofTurn origin identity turn) fun _ => .bind ih fun _ => .pure _

end Message

theorem Item.discreet_message (origin : Origin) (checkpointId : Value) (item : Item) :
    Recording.Discreet (item.message origin checkpointId) := by
  cases item with
  | event event => exact Message.discreet_ofEvent origin checkpointId event
  | failure | other => exact .bind (.idOrFresh _) fun _ => .throw _

end Transcript
