import Transcript.Store.Options
import Transcript.Store.Writer

/-! The depot: the database with every store that was opened on it. A store takes batches
for its workers; storage failures after it is open are only noted. -/

namespace Transcript

/-- An open store: its options, which connections of the depot are its own, and its workers. -/
structure Store where
  options : Store.Options
  connections : Nat
  pool : Pool Store.WriteJob

namespace Store

/-- What a store tells about itself. -/
def description (store : Store) : Mapping :=
  let options := store.options
  [("dsn", .str options.dsn), ("schema", .str options.schema),
   ("table", .str (qualifiedTable options.schema)), ("max_connections", options.maxConnections),
   ("acquire_timeout", options.acquireTimeout), ("shutdown_policy", .str options.shutdownPolicy),
   ("shutdown_timeout", options.shutdownTimeout), ("workers", .int store.pool.lanes.length),
   ("queue_size", .int store.pool.capacity), ("worker_name", .str store.pool.name)]

/-- The connections of a store: what they were asked for with, whether an attempt to open
them was made, and how often they were closed. -/
structure Connections where
  dsn : String
  maximum : Value
  timeout : Value
  opened : Bool := false
  closings : Nat := 0

/-- What connections are asked for with. One is kept at least, and none is opened before
the store opens them. -/
def Connections.arguments (connections : Connections) : Mapping :=
  [("conninfo", .str connections.dsn), ("min_size", .int 1), ("max_size", connections.maximum),
   ("timeout", connections.timeout), ("open", .bool false), ("name", .str "completion-recorder")]

/-- How a database responds while a store is opened on it: whether connections can be opened, and,
for the statements of a schema, what comes of them and the database that is there afterwards. -/
structure Response where
  opening : Except Breakdown Unit
  prepare : List String → Except Breakdown Unit × Database

/-- A database responds by what fails in it at present. -/
def Database.response (database : Database) : Response where
  opening := database.check .opening
  prepare := database.prepare

structure Depot where
  database : Database := {}
  connections : List Connections := []
  stores : List Store := []

namespace Depot

/-- Do some work on the database. -/
def onDatabase {α : Type} (work : Office Database → α × Office Database) (office : Office Depot) :
    α × Office Depot :=
  let (result, inner) := work ⟨office.desk, office.store.database⟩
  (result, ⟨inner.desk, { office.store with database := inner.store }⟩)

/-- Change the database alone. -/
def modifyDatabase (change : Database → Database) (office : Office Depot) : Office Depot :=
  { office with store := { office.store with database := change office.store.database } }

/-- Let connections through again. -/
def release (office : Office Depot) : Office Depot :=
  modifyDatabase (fun database => { database with held := false }) office

/-- Ask for connections with the options of a store, and try to open them. -/
def connect (response : Response) (options : Options) (office : Office Depot) :
    Except Breakdown Unit × Office Depot :=
  let made : Connections :=
    { dsn := options.dsn, maximum := options.maxConnections, timeout := options.acquireTimeout,
      opened := true }
  let connections := office.store.connections ++ [made]
  (response.opening, { office with store := { office.store with connections } })

/-- Close connections; they may be closed more than once. -/
def disconnect (index : Nat) (office : Office Depot) : Office Depot :=
  let connections := office.store.connections.modify index fun made =>
    { made with closings := made.closings + 1 }
  { office with store := { office.store with connections } }

/-- Give up opening a store. Its connections are closed unless it crashed. -/
def giveUp (index : Nat) (breakdown : Breakdown) (fault : Breakdown → OpenFault)
    (notice : String → Notice) (office : Office Depot) : OpenFault × Office Depot :=
  if breakdown.outage = .crash then (.crashed breakdown, office)
  else (fault breakdown, (disconnect index office).note (notice breakdown.message))

/-- Define the schema of a store. -/
def defineSchema (response : Response) (schema : String) (office : Office Depot) :
    Except Breakdown Unit × Office Depot :=
  let (outcome, database) := response.prepare (schemaStatements schema)
  (outcome, modifyDatabase (fun _ => database) office)

/-- Note that the schema is there and the store is ready. -/
def noteReady (options : Options) (office : Office Depot) : Office Depot :=
  let table := qualifiedTable options.schema
  (office.note (.schemaReady table)).note
    (.event "checkpoint_store_ready"
      [("table", .str table), ("max_connections", options.maxConnections)])

/-- Add a store with fresh workers, and return its number. -/
def addStore (options : Options) (connections : Nat) (office : Office Depot) :
    Except OpenFault Nat × Office Depot :=
  match Pool.create Pool.defaultName options.workers options.queueSize with
  | .error fault => (.error (.pool fault), office)
  | .ok pool =>
    let stores := office.store.stores ++ [⟨options, connections, pool⟩]
    (.ok office.store.stores.length, { office with store := { office.store with stores } })

/-- Open a store: check its options, connect, define the schema, start the workers. -/
def openWith (response : Response) (options : Options) (office : Office Depot) :
    Except OpenFault Nat × Office Depot :=
  match options.fault? with
  | some fault => (.error fault, office)
  | none =>
    let index := office.store.connections.length
    match connect response options (office.note (.connecting options.schema)) with
    | (.error breakdown, office) =>
      let (fault, office) := giveUp index breakdown .notConnected .notConnected office
      (.error fault, office)
    | (.ok (), office) =>
      match defineSchema response options.schema office with
      | (.error breakdown, office) =>
        let (fault, office) := giveUp index breakdown .schemaFailed .schemaFailed office
        (.error fault, office)
      | (.ok (), office) => addStore options index (noteReady options office)

/-- Open a store on the database of the depot. -/
def openStore (options : Options) (office : Office Depot) : Except OpenFault Nat × Office Depot :=
  openWith office.store.database.response options office

/-- Put a store back with changed workers. -/
def setPool (index : Nat) (pool : Pool WriteJob) (office : Office Depot) : Office Depot :=
  let stores := office.store.stores.modify index fun store => { store with pool }
  { office with store := { office.store with stores } }

/-- Run the workers of a store until none of them can go on. -/
def settleStore (index : Nat) (office : Office Depot) : Office Depot :=
  match office.store.stores[index]? with
  | none => office
  | some store =>
    let (pool, office) := onDatabase (Pool.settle WriteJob.work store.pool) office
    setPool index pool office

/-- Run the workers of all stores. -/
def settle (office : Office Depot) : Office Depot :=
  (List.range office.store.stores.length).foldl (fun office index => settleStore index office)
    office

def writeJob (store : Store) (batch : List Message) (identity : Identity) : WriteJob :=
  { schema := store.options.schema, batch, identity }

/-- Hand a batch to the workers of a store; an empty one is left alone. Batches of one
document share a worker, so they are written in order. -/
def append (index : Nat) (batch : List Message) (identity : Identity) (office : Office Depot) :
    Option String × Office Depot :=
  match office.store.stores[index]? with
  | none => (none, office)
  | some store =>
    if batch.isEmpty then (none, office)
    else
      let (submission, pool) :=
        store.pool.submit identity.storageKey (writeJob store batch identity)
      let notices := Pool.submissionNotices pool.name identity.storageKey submission
      let office := notices.foldl Office.note (setPool index pool office)
      match submission with
      | .unhashable kind => (some (PoolFault.message (.unhashable kind)), office)
      | .accepted | .full | .closed => (none, settleStore index office)

/-- Write a batch to a store at once, past its workers. -/
def write (index : Nat) (batch : List Message) (identity : Identity) (office : Office Depot) :
    Except Breakdown Bool × Office Depot :=
  match office.store.stores[index]? with
  | none => (.ok false, office)
  | some store => onDatabase (writeJob store batch identity).run office

/-- Close a store: shut its workers down by the given policy or else by its own, then
close its connections. With `releases`, held connections are let through meanwhile. -/
def close (index : Nat) (policy : Option String) (releases : Bool) (office : Office Depot) :
    Except PoolFault Unit × Office Depot :=
  match office.store.stores[index]? with
  | none => (.ok (), office)
  | some store =>
    let policy := (given policy).getD store.options.shutdownPolicy
    let letThrough (inner : Office Database) : Office Database :=
      if releases then { inner with store := { inner.store with held := false } } else inner
    let ((outcome, pool), office) :=
      onDatabase (fun inner =>
        let (outcome, pool, inner) := store.pool.shutdown WriteJob.work policy letThrough inner
        ((outcome, pool), inner)) office
    let office := setPool index pool office
    match outcome with
    | .error fault => (.error fault, office)
    | .ok _ =>
      (.ok (), (disconnect store.connections office).note
        (.storeClosed (qualifiedTable store.options.schema)))

/-- The gateway of a store. -/
def gateway (index : Nat) : Gateway Depot where
  enabled := true
  append := append index

end Depot

end Store

end Transcript
