import Transcript.Store.Table

/-! The database as the store sees it: connections, statements and commits, each of which
may fail. What a statement did is not taken back when the commit fails. -/

namespace Transcript.Store

/-- The places at which the database may fail. -/
inductive Site where
  | opening
  | connection
  | schema
  | insert
  | commit
deriving DecidableEq, Repr

namespace Site

def name : Site → String
  | .opening => "open"
  | .connection => "connection"
  | .schema => "schema"
  | .insert => "insert"
  | .commit => "commit"

def all : List Site := [.opening, .connection, .schema, .insert, .commit]

def ofName? (name : String) : Option Site := all.find? fun site => site.name == name

end Site

/-- How the database may fail: no connection in time, two kinds of refusal that it reports
itself, and a crash of something else. -/
inductive Outage where
  | timeout
  | operational
  | constraint
  | crash
deriving DecidableEq, Repr

namespace Outage

def ofName? : String → Option Outage
  | "timeout" => some .timeout
  | "operational" => some .operational
  | "constraint" => some .constraint
  | "crash" => some .crash
  | _ => none

end Outage

/-- A failure of the database at some place. -/
structure Breakdown where
  site : Site
  outage : Outage
deriving DecidableEq, Repr

def Breakdown.message (breakdown : Breakdown) : String :=
  breakdown.site.name ++ match breakdown.outage with
    | .timeout => " timed out"
    | .operational => " refused"
    | .constraint => " violates constraint"
    | .crash => " crashed"

/-- A statement that reached the database. -/
structure Statement where
  sql : String
  values : List Value := []

/-- The first two words of a statement. -/
def Statement.kind (statement : Statement) : String :=
  " ".intercalate ((statement.sql.splitOn " ").take 2)

structure Database where
  table : Table := []
  statements : List Statement := []
  commits : Nat := 0
  /-- What fails at present, by place. -/
  outages : List (Site × Outage) := []
  /-- Whether connections are held back. -/
  held : Bool := false
deriving Inhabited

namespace Database

/-- The failure that stands at a place. -/
def check (database : Database) (site : Site) : Except Breakdown Unit :=
  match database.outages.lookup site with
  | some outage => .error ⟨site, outage⟩
  | none => .ok ()

/-- A statement arrives, before anything can fail. -/
def arrive (database : Database) (statement : Statement) : Database :=
  { database with statements := database.statements ++ [statement] }

/-- A statement of the schema. -/
def define (database : Database) (sql : String) : Except Breakdown Unit × Database :=
  let database := database.arrive ⟨sql, []⟩
  (database.check .schema, database)

/-- A statement that writes a row. -/
def insert (database : Database) (sql : String) (row : Row) : Except Breakdown Unit × Database :=
  let database := database.arrive ⟨sql, row.values⟩
  match database.check .insert with
  | .error breakdown => (.error breakdown, database)
  | .ok () => (.ok (), { database with table := upsert database.table row })

def commit (database : Database) : Except Breakdown Unit × Database :=
  match database.check .commit with
  | .error breakdown => (.error breakdown, database)
  | .ok () => (.ok (), { database with commits := database.commits + 1 })

/-- Statements of the schema one after the other, up to the first that fails. -/
def defineAll : List String → Database → Except Breakdown Unit × Database
  | [], database => (.ok (), database)
  | sql :: rest, database =>
    match database.define sql with
    | (.error breakdown, database) => (.error breakdown, database)
    | (.ok (), database) => defineAll rest database

/-- Take a connection, define the schema and commit. -/
def prepare (database : Database) (statements : List String) :
    Except Breakdown Unit × Database :=
  match database.check .connection with
  | .error breakdown => (.error breakdown, database)
  | .ok () =>
    match database.defineAll statements with
    | (.error breakdown, database) => (.error breakdown, database)
    | (.ok (), database) => database.commit

/-- Take a connection, write a row and commit. -/
def write (database : Database) (sql : String) (row : Row) : Except Breakdown Unit × Database :=
  match database.check .connection with
  | .error breakdown => (.error breakdown, database)
  | .ok () =>
    match database.insert sql row with
    | (.error breakdown, database) => (.error breakdown, database)
    | (.ok (), database) => database.commit

end Database

end Transcript.Store
