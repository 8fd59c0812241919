import Transcript.Stream

/-! Gateways and handlers. A gateway takes batches of messages; the handler makes the
batches and keeps every failure of the gateway to itself. -/

namespace Transcript

/-- The desk together with the state of a gateway. -/
structure Office (σ : Type) where
  desk : Desk := {}
  store : σ

namespace Office

variable {σ : Type}

def note (office : Office σ) (notice : Notice) : Office σ :=
  { office with desk := office.desk.note notice }

/-- Do some recording work at the desk. -/
def perform {α : Type} (office : Office σ) (work : Recording α) : Except Fault α × Office σ :=
  let (outcome, desk) := work.run.run office.desk
  (outcome, { office with desk })

end Office

/-- A place that takes batches: it may note things, change its state and fail with a text. -/
structure Gateway (σ : Type) where
  enabled : Bool
  append : List Message → Identity → Office σ → Option String × Office σ

namespace Gateway

variable {σ : Type}

/-- The gateway of a recorder without storage: batches are noted and discarded. -/
def discarding : Gateway σ where
  enabled := false
  append batch identity office := (none, office.note (.discarded batch.length identity))

/-- Offer a batch; a failure of the gateway is noted and goes no further. -/
def offer (gateway : Gateway σ) (batch : List Message) (identity : Identity) (office : Office σ) :
    Office σ :=
  match gateway.append batch identity office with
  | (none, office) => office
  | (some cause, office) => office.note (.gatewayFailed identity cause)

/-- Record the turns of a request; a request without turns is not offered. -/
def saveRequest (gateway : Gateway σ) (origin : Origin) (identity : Identity)
    (turns : List Message.Outgoing) (office : Office σ) : Except Fault Unit × Office σ :=
  match office.perform (Message.ofTurns origin identity turns) with
  | (.error fault, office) => (.error fault, office)
  | (.ok [], office) => (.ok (), office)
  | (.ok batch, office) => (.ok (), gateway.offer batch identity office)

/-- Record one element of a stream; an element without a message is not offered. -/
def saveItem (gateway : Gateway σ) (origin : Origin) (identity : Identity) (item : Item)
    (office : Office σ) : Except Fault Unit × Office σ :=
  match office.perform (item.message origin identity.checkpointId) with
  | (.error fault, office) => (.error fault, office)
  | (.ok none, office) => (.ok (), office)
  | (.ok (some message), office) => (.ok (), gateway.offer [message] identity office)

end Gateway

end Transcript
