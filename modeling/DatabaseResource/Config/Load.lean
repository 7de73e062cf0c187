import DatabaseResource.Config.Basic
import DatabaseResource.Config.Settings
import DatabaseResource.Text.Blank

/-!
# From settings to a configuration

Every setting but the mode is required; user, host and name must not be blank, the port must be a
port number, and the mode one of the known ones. The first fault is reported: a missing setting
before any bad one.
-/

namespace DatabaseResource.Config

/-- What a setting must be and is not. -/
inductive RuleError where
  | blank (setting : Setting)
  | badPort (given : String)
  | badMode (given : String)
  | other (text : String)
deriving DecidableEq, Repr

def RuleError.message : RuleError → String
  | blank s => s!"{s.variableName} must not be empty"
  | badPort given => s!"{Setting.hostPort.variableName} must be a port number (got {given})"
  | badMode given =>
    let words := ", ".intercalate (SslMode.all.map SslMode.word)
    s!"{Setting.sslMode.variableName} must be one of {words} (got {given})"
  | other text => text

/-- Why there is no configuration. -/
inductive Error where
  | settings (error : Settings.Error)
  | rule (error : RuleError)
deriving DecidableEq, Repr

/-- The value of decimal digits, if there is at least one and nothing else. -/
def decimal? (cs : List Char) : Option Nat :=
  if cs.isEmpty then none
  else
    cs.foldl (fun n c => do
      let n ← n
      if '0' ≤ c ∧ c ≤ '9' then some (n * 10 + (c.toNat - 48)) else none) (some 0)

/-- A port number from 1 to 65535, with an optional plus sign and any number of zeros in front. -/
def port? (cs : List Char) : Option Nat := do
  let n ← decimal? (match cs with
    | '+' :: cs => cs
    | cs => cs)
  if 1 ≤ n ∧ n ≤ 65535 then some n else none

/-- The mode that a setting gives; a missing or blank one means `prefer`. -/
def mode (given : Option String) : Except RuleError SslMode :=
  match given.map fun s => Text.trim s.toList with
  | none => .ok .prefer
  | some [] => .ok .prefer
  | some cs =>
    match SslMode.ofWord? (String.ofList cs) with
    | some m => .ok m
    | none => .error (.badMode (String.ofList cs))

/-- A setting that there must be. -/
def require (settings : Settings) (s : Setting) : Except Error String :=
  match settings s with
  | some text => .ok text
  | none => .error (.settings (.missing s.key))

/-- Refuses a blank text. -/
def checkNotBlank (s : Setting) (text : String) : Except Error Unit :=
  if Text.isAllBlank text then .error (.rule (.blank s)) else .ok ()

/-- The configuration that settings give. -/
def ofSettings (settings : Settings) : Except Error Config := do
  let user ← require settings .user
  let password ← require settings .password
  let host ← require settings .host
  let port ← require settings .hostPort
  let name ← require settings .name
  checkNotBlank .user user
  checkNotBlank .host host
  checkNotBlank .name name
  match port? (Text.trim port.toList) with
  | none => .error (.rule (.badPort port))
  | some hostPort =>
    match mode (settings .sslMode) with
    | .error e => .error (.rule e)
    | .ok sslMode => .ok { user, password, host, hostPort, name, sslMode }

/-- The configuration that the members of a value give. -/
def ofValue (v : Json.Value) : Except Error Config :=
  match Settings.ofValue v with
  | .error e => .error (.settings e)
  | .ok settings => ofSettings settings

/-- The configuration that an environment gives. -/
def ofEnvironment (env : Environment) : Except Error Config :=
  ofSettings (.ofEnvironment env)

end DatabaseResource.Config
