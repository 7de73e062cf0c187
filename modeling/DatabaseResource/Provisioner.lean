import DatabaseResource.Bootstrapper

/-!
# Provisioners

What provides the resource when a stack asks for it. The database's provisioner makes and fills
the database, or says why it has no configuration; `inTurn` hands out given outcomes one by one.
-/

namespace DatabaseResource

/-- What the stack is told of a provided resource. -/
structure Provisioned where
  physicalResourceId : String
  data : List (String × String)
deriving DecidableEq, Repr

/-- Provides the resource, or says why not. -/
abbrev Provisioner := Activity (Except Fault Provisioned)

/-- The database, where its configuration loaded. -/
inductive DatabaseProvisioner where
  | ready (bootstrapper : Bootstrapper)
  | unconfigured (reason : String)
deriving DecidableEq, Repr

open Activity

/-- What the stack is told of a database: its name is the id. -/
def Provisioned.ofDatabase (name : String) : Provisioned := ⟨name, [("DatabaseName", name)]⟩

/-- Makes and fills the database. -/
def Bootstrapper.provision (b : Bootstrapper) (server : Database.Server) (files : Files) :
    Provisioner := do
  match ← b.bootstrap server files with
  | .error f => return .error f
  | .ok () => return .ok (.ofDatabase b.config.name)

namespace DatabaseProvisioner

def provision (p : DatabaseProvisioner) (server : Database.Server) (files : Files) :
    Provisioner :=
  match p with
  | ready b => b.provision server files
  | unconfigured reason => return .error (.unconfigured reason)

/-- Loads the configuration from the environment and logs what came of it. -/
def ofEnvironment (env : Environment) : Activity DatabaseProvisioner := do
  match Config.ofEnvironment env with
  | .ok c =>
    if !Config.isPlainIdentifier c.name then log (.nameNotPlain c.name)
    log (.configured c.user c.host c.hostPort c.name c.sslMode)
    return ready (.ofConfig c)
  | .error e =>
    let fault := Fault.ofConfigError e
    log (.notConfigured fault)
    return unconfigured fault.message

end DatabaseProvisioner

/-- An outcome that takes some nanoseconds. -/
structure Outcome where
  delay : Nat
  result : Except Fault Provisioned

/-- Hands out outcomes in their order, the last one again and again; it knows its turn by how often
a provisioner has been asked. -/
def Provisioner.inTurn (outcomes : List Outcome) : Provisioner := do
  let m ← moment
  match outcomes[min (provisionings m.events - 1) (outcomes.length - 1)]? with
  | none => never
  | some o =>
    sleep o.delay
    return o.result

end DatabaseResource
