import Transcript.Counter
import Transcript.Identity

/-! Notices: everything that the recorder reports about itself. A notice is shown as a
log line of some level, and some are counted. -/

namespace Transcript

inductive Level where
  | debug
  | info
  | warning
  | error
  | critical
deriving DecidableEq, Repr, Inhabited

namespace Level

def rank : Level → Nat
  | .debug => 10
  | .info => 20
  | .warning => 30
  | .error => 40
  | .critical => 50

def name : Level → String
  | .debug => "DEBUG"
  | .info => "INFO"
  | .warning => "WARNING"
  | .error => "ERROR"
  | .critical => "CRITICAL"

/-- The upper case of the letters that level names are made of; the dotless i has the
same upper case as the dotted one. -/
def upper (c : Char) : Char := if c = 'ı' then 'I' else c.toUpper

/-- The level that a setting names in any case, blanks around it aside; a setting that
names none means info. -/
def ofSetting (setting : Value) : Level :=
  let chosen := if setting.isGiven then setting.shown else Level.info.name
  match String.ofList ((Text.strip chosen).toList.map upper) with
  | "CRITICAL" => .critical
  | "ERROR" => .error
  | "WARNING" => .warning
  | "DEBUG" => .debug
  | _ => .info

end Level

inductive Notice where
  /-- An amount was added to a series. -/
  | counted (name : String) (amount : Value) (labels : List (Value × Value))
  /-- A payload could not be written. -/
  | unwritable (site cause : String)
  | unwritableContent (cause : String)
  | unwritableBatch (identity : Identity) (cause : String)
  | strippedNul (count : Nat) (identity : Identity)
  | taskPathAnomaly (tag : String) (intents : List String)
  | discarded (size : Nat) (identity : Identity)
  | gatewayFailed (identity : Identity) (cause : String)
  | unrecorded (kind : String) (threadId : Value) (cause : String)
  | refusedJob (pool : String) (key : Value)
  | queueFull (pool : String) (key : Value)
  | failedJob (pool cause : String)
  | abandonedJobs (pool : String) (count : Nat)
  | unplacedStop (pool : String)
  | stillRunning (pool : String) (worker : Nat)
  | poolStopped (pool policy : String)
  | connecting (schema : String)
  | notConnected (cause : String)
  | schemaFailed (cause : String)
  | schemaReady (table : String)
  | event (name : String) (fields : Mapping)
  | noConnection (identity : Identity) (cause : String)
  | upsertFailed (identity : Identity) (cause : String)
  | batchWritten (identity : Identity) (size : Nat) (taskPath : String)
  | storeClosed (table : String)
  | storageDisabled
  | storageReady
  | storeUnavailable (cause : String)

namespace Notice

def level : Notice → Level
  | .counted .. | .discarded .. | .batchWritten .. => .debug
  | .poolStopped .. | .connecting _ | .schemaReady _ | .event .. | .storeClosed _
  | .storageDisabled | .storageReady => .info
  | .strippedNul .. | .unrecorded .. | .refusedJob .. | .queueFull .. | .failedJob ..
  | .abandonedJobs .. | .unplacedStop _ | .stillRunning .. => .warning
  | .unwritable .. | .unwritableContent _ | .unwritableBatch .. | .taskPathAnomaly ..
  | .gatewayFailed .. | .notConnected _ | .schemaFailed _ | .noConnection .. | .upsertFailed ..
  | .storeUnavailable _ => .error

/-- How log lines name the document that a batch belongs to. -/
def place (identity : Identity) : String :=
  "thread_id=" ++ identity.threadId.shown ++ " checkpoint_id=" ++ identity.checkpointId.shown

/-- The fields of an event, sorted by name. -/
def fieldsText (fields : Mapping) : String :=
  let sorted := fields.mergeSort fun left right => !(right.1 < left.1)
  " ".intercalate (sorted.map fun field => field.1 ++ "=" ++ field.2.shown)

/-- The log line of a notice. -/
def text : Notice → String
  | .counted name amount labels =>
    "metric counter name=" ++ name ++ " value=" ++ amount.shown ++ " labels=" ++
      (Value.mapping labels).shown
  | .unwritable site cause => "failed to serialize " ++ site ++ ": " ++ cause
  | .unwritableContent cause => "failed to serialize request message content: " ++ cause
  | .unwritableBatch identity cause =>
    "failed to serialize batch " ++ place identity ++ ": " ++ cause
  | .strippedNul count identity =>
    "stripped " ++ toString count ++ " NUL characters from batch " ++ place identity
  | .taskPathAnomaly tag intents =>
    "task path anomaly: not all intents in batch were " ++ tag ++ " intents=" ++
      (Value.list (intents.map .str)).shown
  | .discarded size identity =>
    "storage disabled, discarding batch size=" ++ toString size ++ " " ++ place identity
  | .gatewayFailed identity cause => "gateway append failed " ++ place identity ++ ": " ++ cause
  | .unrecorded kind threadId cause =>
    "failed to record completion event kind=" ++ kind ++ " thread_id=" ++ threadId.shown ++
      ": " ++ cause
  | .refusedJob pool key => pool ++ " is shut down, dropping job key=" ++ key.shown
  | .queueFull pool key => pool ++ " queue full, dropping job key=" ++ key.shown
  | .failedJob pool cause => pool ++ " job failed: " ++ cause
  | .abandonedJobs pool count =>
    pool ++ " abandoned " ++ toString count ++ " queued jobs on shutdown"
  | .unplacedStop pool => pool ++ " could not enqueue stop marker before timeout"
  | .stillRunning pool worker =>
    pool ++ " worker " ++ pool ++ "-" ++ toString worker ++ " still running after shutdown timeout"
  | .poolStopped pool policy => pool ++ " stopped policy=" ++ policy
  | .connecting schema => "connecting to postgres schema=" ++ schema
  | .notConnected cause => "failed to connect to postgres: " ++ cause
  | .schemaFailed cause => "failed to initialize checkpoint schema: " ++ cause
  | .schemaReady table => "checkpoint schema initialized table=" ++ table
  | .event name fields => "event=" ++ name ++ " " ++ fieldsText fields
  | .noConnection identity cause =>
    "postgres connection unavailable, dropping batch " ++ place identity ++ ": " ++ cause
  | .upsertFailed identity cause =>
    "checkpoint upsert failed, dropping batch " ++ place identity ++ ": " ++ cause
  | .batchWritten identity size taskPath =>
    "checkpoint batch written " ++ place identity ++ " size=" ++ toString size ++ " task_path=" ++
      taskPath
  | .storeClosed table => "checkpoint store closed table=" ++ table
  | .storageDisabled => "message storage disabled, using no-op gateway"
  | .storageReady => "message handler initialized with postgres storage"
  | .storeUnavailable cause =>
    "message store unavailable, messages will be discarded: " ++ cause

/-- Count a notice, if it is one that counts. -/
def count (notice : Notice) (counters : Counters) : Counters :=
  match notice with
  | .counted name amount labels => counters.add name labels (amount.integer?.getD 0)
  | _ => counters

end Notice

/-- The counters after a run of notices. -/
def Counters.ofNotices (notices : List Notice) : Counters :=
  notices.foldl (fun counters notice => notice.count counters) {}

/-- The series that the recorder counts by itself. -/
inductive Tally where
  | unwritable (site : String)
  | nul (count : Nat)
  | anomaly (tag : String)
  | dropped (reason : String) (count : Nat)
  | written (taskPath : String)

namespace Tally

def amount : Tally → Nat
  | .nul count | .dropped _ count => count
  | .unwritable _ | .anomaly _ | .written _ => 1

def label : Tally → String × String
  | .unwritable site => ("site", site)
  | .nul _ => ("site", "nul")
  | .anomaly tag => ("tag", tag)
  | .dropped reason _ => ("reason", reason)
  | .written taskPath => ("task_path", taskPath)

def series : Tally → String
  | .unwritable _ | .nul _ => "recorder_serialization_failures"
  | .anomaly _ => "recorder_task_path_anomaly"
  | .dropped .. => "recorder_batches_dropped"
  | .written _ => "recorder_batches_written"

def notice (tally : Tally) : Notice :=
  .counted tally.series (.int tally.amount) [(.str tally.label.1, .str tally.label.2)]

end Tally

end Transcript
