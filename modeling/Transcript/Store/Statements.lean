namespace Transcript.Store

/-- The name of the table inside its schema. -/
def tableName : String := "ide_checkpoints"

/-- The full name of the table. -/
def qualifiedTable (schema : String) : String := schema ++ "." ++ tableName

def createSchema (schema : String) : String := "CREATE SCHEMA IF NOT EXISTS " ++ schema

def createTable (schema : String) : String :=
  "CREATE TABLE IF NOT EXISTS " ++ qualifiedTable schema ++
    " ( thread_id TEXT NOT NULL, prompt_id TEXT NOT NULL, session_id TEXT NOT NULL," ++
    " checkpoint_ts TEXT NOT NULL DEFAULT '', checkpoint_id TEXT NOT NULL," ++
    " blob BYTEA NOT NULL, task_path TEXT NOT NULL DEFAULT ''," ++
    " PRIMARY KEY (thread_id, checkpoint_id) )"

def createIndex (schema columnNames columns : String) : String :=
  "CREATE INDEX IF NOT EXISTS " ++ tableName ++ "_" ++ columnNames ++ "_idx ON " ++
    qualifiedTable schema ++ " (" ++ columns ++ ")"

/-- What is defined when a store opens, in order. -/
def schemaStatements (schema : String) : List String :=
  [createSchema schema, createTable schema, createIndex schema "thread_id" "thread_id",
   createIndex schema "thread_id_checkpoint_id" "thread_id, checkpoint_id"]

/-- Write a row, or append its document to the row that is there. The task path is not
among the columns that a later write replaces. -/
def upsertStatement (schema : String) : String :=
  "INSERT INTO " ++ qualifiedTable schema ++ " AS cp" ++
    " (thread_id, prompt_id, session_id, checkpoint_ts, checkpoint_id, blob, task_path)" ++
    " VALUES (%s, %s, %s, %s, %s, %s, %s) ON CONFLICT (thread_id, checkpoint_id)" ++
    " DO UPDATE SET blob = convert_to( ( COALESCE(convert_from(cp.blob, 'UTF8')::jsonb," ++
    " '[]'::jsonb) || convert_from(EXCLUDED.blob, 'UTF8')::jsonb )::text, 'UTF8' )," ++
    " checkpoint_ts = EXCLUDED.checkpoint_ts, prompt_id = EXCLUDED.prompt_id," ++
    " session_id = EXCLUDED.session_id"

end Transcript.Store
