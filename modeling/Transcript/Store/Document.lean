import Transcript.Desk
import Transcript.Message

/-! Stored documents: a document is the text of a JSON array of messages. Batches are
written without the escape for U+0000, which the database refuses, and a document grows
by the items of each further batch. -/

namespace Transcript.Store

/-- A document without messages. -/
def emptyDocument : String := "[]"

/-- The text of a document with every escape for U+0000 dropped, and how many were dropped.
Backslashes are taken in pairs, so text behind an escaped backslash is no escape. -/
def dropNul : List Char → List Char × Nat
  | '\\' :: '\\' :: rest =>
    let (kept, count) := dropNul rest
    ('\\' :: '\\' :: kept, count)
  | '\\' :: 'u' :: '0' :: '0' :: '0' :: '0' :: rest =>
    let (kept, count) := dropNul rest
    (kept, count + 1)
  | c :: rest =>
    let (kept, count) := dropNul rest
    (c :: kept, count)
  | [] => ([], 0)

/-- The document of a batch. A batch that cannot be written is noted and contributes
nothing; dropped characters are noted with their number. -/
def document (batch : List Message) (identity : Identity) (desk : Desk) : String × Desk :=
  match batchText batch with
  | .error fault =>
    (emptyDocument,
      (desk.note (.unwritableBatch identity fault.textMessage)).note
        (Tally.notice (.unwritable "batch")))
  | .ok text =>
    let (kept, count) := dropNul text.toList
    if count = 0 then (text, desk)
    else (String.ofList kept,
      (desk.note (.strippedNul count identity)).note (Tally.notice (.nul count)))

/-- Two documents as one: the items of the first and then those of the second. -/
def appendDocument (first second : String) : String :=
  if second = emptyDocument then first
  else if first = emptyDocument then second
  else String.ofList (first.toList.dropLast ++ ',' :: second.toList.drop 1)

end Transcript.Store
