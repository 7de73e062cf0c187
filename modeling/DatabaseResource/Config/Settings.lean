import DatabaseResource.Json.ReadError
import DatabaseResource.Json.Value
import DatabaseResource.Text.Percent

/-!
# Settings

The six settings as they are given, each a text or missing: by the variables of an environment, or
by the members of a value. In an environment the last variable that names a setting counts.
-/

namespace DatabaseResource

/-- What can be set. -/
inductive Setting where
  | user
  | password
  | host
  | hostPort
  | name
  | sslMode
deriving DecidableEq, Repr

namespace Setting

/-- All settings, in the order in which they are asked for. -/
def all : List Setting := [user, password, host, hostPort, name, sslMode]

/-- All settings, in the order of their keys. -/
def sorted : List Setting := [host, hostPort, name, password, sslMode, user]

def key : Setting → String
  | user => "user"
  | password => "password"
  | host => "host"
  | hostPort => "host_port"
  | name => "name"
  | sslMode => "ssl_mode"

/-- Whether there is no database without the setting. -/
def required (s : Setting) : Bool := s != sslMode

/-- What the names of all variables for settings begin with. -/
def variableStart : String := "CLAY_DATABASE_"

/-- The variable's name, as errors say it. -/
def variableName (s : Setting) : String :=
  variableStart ++ String.ofList (s.key.toList.map Char.toUpper)

/-- The setting that a variable's name means: what follows the common start, in lower case. -/
def ofVariable? (name : String) : Option Setting :=
  if variableStart.toList.isPrefixOf name.toList then
    let suffix := (name.toList.drop variableStart.length).map Char.toLower
    all.find? (·.key.toList == suffix)
  else none

end Setting

/-- Each setting's text, where it is given. -/
abbrev Settings := Setting → Option String

/-- Variables in their order: names and values in any bytes. -/
abbrev Environment := List (List UInt8 × List UInt8)

/-- Sets a variable: one that is set already keeps its place. -/
def Environment.set (env : Environment) (name value : List UInt8) : Environment :=
  match env with
  | [] => [(name, value)]
  | (n, v) :: rest =>
    if n = name then (n, value) :: rest else (n, v) :: Environment.set rest name value

/-- The entries of a block, each ended by a zero byte. -/
def Environment.entries : List UInt8 → List (List UInt8)
  | [] => []
  | b :: bs =>
    if b = 0 then [] :: entries bs
    else
      match entries bs with
      | [] => [[b]]
      | entry :: rest => (b :: entry) :: rest

/-- The environment that a block of entries `NAME=value` gives. -/
def Environment.ofBlock (block : List UInt8) : Environment :=
  (entries block).foldl (fun env entry =>
    env.set (entry.takeWhile (· != 61)) ((entry.dropWhile (· != 61)).drop 1)) []

namespace Settings

/-- The setting and text that a variable gives; one that is no UTF-8 gives nothing. -/
def ofVariable? (entry : List UInt8 × List UInt8) : Option (Setting × String) := do
  let name ← Text.ofUtf8? entry.1
  let value ← Text.ofUtf8? entry.2
  some (← Setting.ofVariable? name, value)

/-- The settings of an environment: of several variables for one setting, the last. -/
def ofEnvironment (env : Environment) : Settings := fun s =>
  (env.filterMap ofVariable?).foldl (fun found (t, value) => if t = s then some value else found)
    none

/-- Why settings cannot be taken from a value. -/
inductive Error where
  | notMap (found : Json.Found)
  | notText (found : Json.Found) (setting : Setting)
  | missing (key : String)
  | other (text : String)
deriving DecidableEq, Repr

/-- What a value is, in the words for settings. -/
def describeFound : Json.Found → String
  | .null => "unit"
  | .bool b => s!"bool {b}"
  | .integer i => if 0 ≤ i then s!"unsigned int `{i}`" else s!"signed int `{i}`"
  | .double d => s!"float `{d.positional}`"
  | .text s => s!"string {Text.quoted s}"
  | .sequence => "sequence"
  | .map => "map"

def Error.message : Error → String
  | notMap found => s!"invalid type: found {describeFound found}, expected map"
  | notText found s =>
    s!"invalid type: found {describeFound found}, expected a string for key \"default.{s.key}\""
  | missing key => s!"missing field `{key}`"
  | other text => text

/-- What kind of value stands somewhere. -/
def found : Json.Value → Json.Found
  | .null => .null
  | .bool b => .bool b
  | .number (.integer i) => .integer i
  | .number (.double d) => .double d
  | .text s => .text s
  | .array _ => .sequence
  | .object _ => .map

/-- The text that a member gives a setting; only the mode may be `null`. -/
def ofMember (s : Setting) : Option Json.Value → Except Error (Option String)
  | none => .ok none
  | some (.text t) => .ok (some t)
  | some v => if s = .sslMode ∧ found v = .null then .ok none else .error (.notText (found v) s)

/-- The settings that the members of a value give; the first key with a wrong value is
reported. -/
def ofValue (v : Json.Value) : Except Error Settings :=
  match v with
  | .object members => do
    Setting.sorted.forM fun s => do
      let _ ← ofMember s (Json.get? members s.key)
    .ok fun s => ((ofMember s (Json.get? members s.key)).toOption).join
  | v => .error (.notMap (found v))

end Settings

end DatabaseResource
