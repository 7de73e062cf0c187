import DatabaseResource.Database.Session
import DatabaseResource.Fault

/-!
# Making and filling a database

The database is made over one connection to the server's own database, and its script runs over a
second one. Each statement is sent once; the second connection is opened only when the database
was made and the script was read.
-/

namespace DatabaseResource

/-- The files, by the instant at which they are asked for. -/
structure Files where
  /-- What reading a file gives. -/
  content : Instant → String → Except SystemError (List UInt8)
  /-- How long reading takes; `none` if for ever. -/
  latency : Instant → String → Option Nat

/-- What makes a database and fills it by a script. -/
structure Bootstrapper where
  config : Config
  scriptPath : String
deriving DecidableEq, Repr

namespace Bootstrapper

open Activity

/-- The script that lies beside the program. -/
def standardScript : String := "index.sql"

def ofConfig (config : Config) : Bootstrapper := ⟨config, standardScript⟩

/-- The statement that makes the database; the name stands in it as it is. -/
def statement (b : Bootstrapper) : String := s!"CREATE DATABASE {b.config.name}"

/-- Makes the database. -/
def createDatabase (b : Bootstrapper) (server : Database.Server) :
    Activity (Except Fault Unit) := do
  match ← Database.runQuery server b.config.adminTarget b.statement .database
      (Fault.ofCreateDatabase · b.config.name) with
  | .error f => return .error f
  | .ok _ =>
    log (.databaseCreated b.config.name b.config.host)
    return .ok ()

/-- The script's text. -/
def readScript (b : Bootstrapper) (files : Files) : Activity (Except Fault String) := do
  let start ← now
  match files.latency start b.scriptPath with
  | none => never
  | some n =>
    sleep n
    match files.content start b.scriptPath with
    | .error e => return .error (.script b.scriptPath e)
    | .ok bytes =>
      match Text.ofUtf8? bytes with
      | some text => return .ok text
      | none =>
        return .error (.script b.scriptPath
          (.text .invalidData "stream did not contain valid UTF-8"))

/-- Runs a script in the database, as one query. -/
def runScript (b : Bootstrapper) (server : Database.Server) (script : String) :
    Activity (Except Fault Unit) := do
  match ← Database.runQuery server b.config.ownTarget script .database .database with
  | .error f => return .error f
  | .ok rows =>
    log (.scriptExecuted b.config.name rows)
    return .ok ()

/-- Makes the database and runs its script. -/
def bootstrap (b : Bootstrapper) (server : Database.Server) (files : Files) :
    Activity (Except Fault Unit) := do
  match ← b.createDatabase server with
  | .error f => return .error f
  | .ok () =>
    match ← b.readScript files with
    | .error f => return .error f
    | .ok script => b.runScript server script

/-- The bootstrapper as text, without the password. -/
def describe (b : Bootstrapper) : String :=
  "PostgresBootstrapper \x7b " ++ s!"config: {b.config.describe}, "
    ++ s!"script_path: {Text.quoted b.scriptPath}" ++ " \x7d"

end Bootstrapper

end DatabaseResource
