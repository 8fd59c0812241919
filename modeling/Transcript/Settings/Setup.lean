import Transcript.Settings

namespace Transcript

structure Setup where
  agent : Value
  dsn : Option String
  schema : String
  maxConnections : Value
  acquireTimeout : Value
  workers : Int
  queueSize : Int
  shutdownPolicy : String
  shutdownTimeout : Value
deriving Inhabited

namespace Setup

def ofSettings (settings : Settings) : Setup where
  agent := .str settings.agentName
  dsn := settings.postgresDsn
  schema := settings.postgresSchema
  maxConnections := .int settings.maxConnections
  acquireTimeout := .float settings.acquireTimeout
  workers := settings.workers
  queueSize := settings.queueSize
  shutdownPolicy := settings.shutdownPolicy.name
  shutdownTimeout := .float settings.shutdownTimeout

/-- Reassign one value in use. Texts and counts take only values of their own sort. -/
def assign (setup : Setup) (name : String) (value : Value) : Setup :=
  match name with
  | "agent_name" => { setup with agent := value }
  | "postgres_dsn" => { setup with dsn := value.text? }
  | "postgres_schema" => { setup with schema := value.text?.getD setup.schema }
  | "postgres_max_connections" => { setup with maxConnections := value }
  | "postgres_acquire_timeout_seconds" => { setup with acquireTimeout := value }
  | "persist_workers" => { setup with workers := value.integer?.getD setup.workers }
  | "persist_queue_size" => { setup with queueSize := value.integer?.getD setup.queueSize }
  | "shutdown_policy" => { setup with shutdownPolicy := value.text?.getD setup.shutdownPolicy }
  | "shutdown_timeout_seconds" => { setup with shutdownTimeout := value }
  | _ => setup

end Setup

end Transcript
