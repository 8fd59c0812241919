import Transcript.Notice
import Transcript.Validation.Checked
import Transcript.Json.Payload

/-! The recorder's desk: the notices written so far, and the numbers of identifiers issued
and times taken. Recording an item may fail, and what was noted before stays noted. -/

namespace Transcript

structure Desk where
  notices : List Notice := []
  issued : Nat := 0
  stamps : Nat := 0
deriving Inhabited

namespace Desk

def note (desk : Desk) (notice : Notice) : Desk :=
  { desk with notices := desk.notices ++ [notice] }

def counters (desk : Desk) : Counters := .ofNotices desk.notices

/-- The times of writes, in the order in which they are taken. -/
def stampText (number : Nat) : String := "TS" ++ toString number

/-- Take the time. -/
def stamp (desk : Desk) : String × Desk :=
  (stampText (desk.stamps + 1), { desk with stamps := desk.stamps + 1 })

/-- The log lines at or above a level. -/
def lines (level : Level) (notices : List Notice) : List (Level × String) :=
  (notices.filter fun notice => level.rank ≤ notice.level.rank).map fun notice =>
    (notice.level, notice.text)

end Desk

/-- Why an item cannot be turned into messages. -/
inductive Fault where
  | invalid (issues : List Issue)
  | unsupportedRole (role : Value)
  | unsupportedEvent (kind : String)
  | noAttribute (owner member : String)
  | payloadTooDeep
deriving Inhabited

def Fault.message : Fault → String
  | .invalid issues =>
    toString issues.length ++ " validation issues: " ++
      ", ".intercalate (issues.map fun issue => issue.rule.code)
  | .unsupportedRole role => "unsupported request role: " ++ role.repr
  | .unsupportedEvent kind => "unsupported completion event: " ++ kind
  | .noAttribute owner member =>
    Text.quoted owner ++ " object has no attribute " ++ Text.quoted member
  | .payloadTooDeep => Json.PayloadFault.message .tooDeep

/-- Work at the desk that may fail. -/
abbrev Recording := ExceptT Fault (StateM Desk)

namespace Recording

def note (notice : Notice) : Recording Unit :=
  (modify fun desk => desk.note notice : StateM Desk Unit)

def tally (tally : Tally) : Recording Unit := note tally.notice

/-- A checked value, or the failure that its issues make. -/
def ofChecked {α : Type} : Checked α → Recording α
  | .valid value => pure value
  | .invalid issues => throw (.invalid issues)

/-- The identifiers that stand in for missing ones, in the order in which they are issued. -/
def issuedId (number : Nat) : String := "gen-" ++ toString number

/-- A fresh identifier. -/
def freshId : Recording String := do
  let desk ← (get : StateM Desk Desk)
  (set { desk with issued := desk.issued + 1 } : StateM Desk Unit)
  return issuedId (desk.issued + 1)

/-- A given identifier, or a fresh one in place of an empty or missing one. -/
def idOrFresh (candidate : Value) : Recording Value :=
  if candidate.isGiven then pure candidate else .str <$> freshId

end Recording

end Transcript
