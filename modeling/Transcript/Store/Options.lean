import Transcript.Failure
import Transcript.Pool
import Transcript.Settings.Setup
import Transcript.Store.Database
import Transcript.Store.Statements

namespace Transcript.Store

structure Options where
  dsn : String
  schema : String := "public"
  maxConnections : Value := .int 5
  acquireTimeout : Value := .float 3.0
  workers : Int := 2
  queueSize : Int := 1000
  shutdownPolicy : String := ShutdownPolicy.drain.name
  shutdownTimeout : Value := .float 5.0

/-- A text that is given: an empty one is not. -/
def given (text : Option String) : Option String := text.filter (· != "")

/-- The options that a setup gives, with a schema and a policy that may replace its own. -/
def Options.ofSetup (setup : Setup) (dsn : String) (schema policy : Option String) : Options where
  dsn
  schema := (given schema).getD setup.schema
  maxConnections := setup.maxConnections
  acquireTimeout := setup.acquireTimeout
  workers := setup.workers
  queueSize := setup.queueSize
  shutdownPolicy := (given policy).getD setup.shutdownPolicy
  shutdownTimeout := setup.shutdownTimeout

/-- Why a store was not opened. -/
inductive OpenFault where
  | emptyDsn
  | badSchema
  | unknownPolicy (policy : String)
  | notConnected (breakdown : Breakdown)
  | schemaFailed (breakdown : Breakdown)
  | crashed (breakdown : Breakdown)
  | pool (fault : PoolFault)
deriving DecidableEq, Repr

namespace OpenFault

def message : OpenFault → String
  | .emptyDsn => "postgres dsn is empty"
  | .badSchema => "postgres schema contains invalid characters"
  | .unknownPolicy policy => "unknown shutdown policy: " ++ policy
  | .notConnected breakdown => "cannot connect to postgres: " ++ breakdown.message
  | .schemaFailed breakdown => "cannot initialize schema: " ++ breakdown.message
  | .crashed breakdown => breakdown.message
  | .pool fault => fault.message

/-- The kind of failure that a fault is reported as. A recorder goes on without storage
after such a failure; any other fault stops it. -/
def kind? : OpenFault → Option FailureKind
  | .emptyDsn | .badSchema | .unknownPolicy _ => some .storeConfig
  | .notConnected _ | .schemaFailed _ => some .storeUnavailable
  | .crashed _ | .pool _ => none

end OpenFault

def isNameStart (c : Char) : Bool := c.isAlpha || c == '_'

def isNamePart (c : Char) : Bool := c.isAlphanum || c == '_'

/-- A schema is named by ASCII letters, digits and underscores, without a leading digit. -/
def isSchemaName (name : String) : Bool :=
  match name.toList with
  | first :: rest => isNameStart first && rest.all isNamePart
  | [] => false

/-- What is wrong with options before anything is opened. -/
def Options.fault? (options : Options) : Option OpenFault :=
  if Text.isBlankText options.dsn then some .emptyDsn
  else if !isSchemaName options.schema then some .badSchema
  else match ShutdownPolicy.ofName? options.shutdownPolicy with
    | some _ => none
    | none => some (.unknownPolicy options.shutdownPolicy)

end Transcript.Store
