import Transcript.Proofs.Handler.Serving
import Transcript.Proofs.Store.Patience

/-! Replay. When a store has written everything that a handler recorded, every document is loaded
as the messages that were made for its key. -/

namespace Transcript

open Pool (System Ticket)
open Store (Writing Ledger Schedule)

variable {ε : Type} {schema : String} {join : String → String → Option String}

/-- The office of a handler that performed some operations, over a store with fresh writers. -/
def Office.afterOperations (schedule : Schedule schema join) (pool : Pool (Ticket Writing))
    (table : Store.Table) (desk storeDesk : Desk) (operations : List (Operation ε)) :
    Office (System Writing Ledger) :=
  operations.foldl (Operation.perform (Store.storing schema schedule))
    ⟨desk, .start pool { desk := storeDesk, store := { table } }⟩

def Office.table (office : Office (System Writing Ledger)) : Store.Table :=
  office.store.office.store.table

/-- After any operations the store has been handed everything that was made. -/
theorem keeps_afterOperations (schedule : Schedule schema join) (pool : Pool (Ticket Writing))
    (table : Store.Table) (desk storeDesk : Desk) (operations : List (Operation ε)) :
    Keeps schema join (.start pool { desk := storeDesk, store := { table } })
      (Made.ofOperations desk operations)
      (.afterOperations schedule pool table desk storeDesk operations) := by
  apply Keeps.foldl_perform
  exact ⟨.here, rfl, rfl, rfl⟩

def chat : Session :=
  { threadId := "t", promptId := "p", sessionId := "s", checkpointId := "c", modelId := "m" }

def question : Request :=
  { turns := [{ role := .user, content := .text "hi" }], temperature := some 0.5 }

/-- The question, and the answer to it, of which the consumer takes the first element. -/
def exchange : List (Operation Failure) :=
  [.saveRequest chat question,
   .tapStream chat (some question) ⟨[.event (.text "x\x00y"), .event (.stop .endTurn)], none⟩
     (some 1)]

end Transcript
