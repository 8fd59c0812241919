import Transcript.Store.Depot

namespace Transcript

/-- Where a recorder sends its batches: to a store of the depot or nowhere. -/
inductive Destination where
  | nowhere
  | store (index : Nat)
deriving DecidableEq, Repr, Inhabited

namespace Destination

def gateway : Destination → Gateway Store.Depot
  | .nowhere => .discarding
  | .store index => Store.Depot.gateway index

/-- Close a destination; there is nothing to close nowhere. -/
def close (destination : Destination) (policy : Option String) (releases : Bool)
    (office : Office Store.Depot) : Except PoolFault Unit × Office Store.Depot :=
  match destination with
  | .nowhere => (.ok (), office)
  | .store index => Store.Depot.close index policy releases office

end Destination

/-- What a caller may configure; what is left out comes from the settings. -/
structure RecorderConfig where
  connection : Option String := none
  storage : Bool := true
  schema : Option String := none
  shutdownPolicy : Option String := none

namespace Recorder

open Store

/-- A destination under a setup, where the database responds in a given way. -/
def destinationWith (response : Response) (setup : Setup) (dsn : String) (storage : Bool)
    (schema policy : Option String) (office : Office Depot) :
    Except OpenFault Destination × Office Depot :=
  if storage then
    match Depot.openWith response (.ofSetup setup dsn schema policy) office with
    | (.ok index, office) => (.ok (.store index), office)
    | (.error fault, office) => (.error fault, office)
  else (.ok .nowhere, office)

/-- A destination under a setup, with the database of the depot. -/
def destination (setup : Setup) (dsn : String) (storage : Bool) (schema policy : Option String)
    (office : Office Depot) : Except OpenFault Destination × Office Depot :=
  destinationWith office.store.database.response setup dsn storage schema policy office

/-- Set a recorder up, where the database responds in a given way. A store that is badly
configured or cannot be reached is noted, and batches are discarded from then on. -/
def startWith (response : Response) (setup : Setup) (config : RecorderConfig)
    (office : Office Depot) : Except OpenFault Destination × Office Depot :=
  if config.storage then
    let dsn := resolveConnection config.connection setup.dsn
    match destinationWith response setup dsn true config.schema config.shutdownPolicy office with
    | (.ok place, office) => (.ok place, office.note .storageReady)
    | (.error fault, office) =>
      match fault.kind? with
      | some _ => (.ok .nowhere, office.note (.storeUnavailable fault.message))
      | none => (.error fault, office)
  else (.ok .nowhere, office.note .storageDisabled)

/-- Set a recorder up with the database of the depot. -/
def start (setup : Setup) (config : RecorderConfig) (office : Office Depot) :
    Except OpenFault Destination × Office Depot :=
  startWith office.store.database.response setup config office

end Recorder

end Transcript
