import DatabaseResource.Text.Quoted

/-!
# Connection settings

How the database server is reached, and the name of the database that is made there. `describe`
shows everything but the password; `adminTarget` and `ownTarget` say where the two connections of
an initialisation go.
-/

namespace DatabaseResource

/-- How much a connection insists on encryption. -/
inductive SslMode where
  | disable
  | allow
  | prefer
  | require
  | verifyCa
  | verifyFull
deriving DecidableEq, Repr, Inhabited

namespace SslMode

def all : List SslMode := [disable, allow, prefer, require, verifyCa, verifyFull]

/-- The mode as a setting says it. -/
def word : SslMode → String
  | disable => "disable"
  | allow => "allow"
  | prefer => "prefer"
  | require => "require"
  | verifyCa => "verify-ca"
  | verifyFull => "verify-full"

/-- The mode as a log says it. -/
def name : SslMode → String
  | disable => "Disable"
  | allow => "Allow"
  | prefer => "Prefer"
  | require => "Require"
  | verifyCa => "VerifyCa"
  | verifyFull => "VerifyFull"

/-- The mode that a word names, in any case of its ASCII letters. -/
def ofWord? (text : String) : Option SslMode :=
  all.find? fun mode => mode.word.toList == text.toList.map Char.toLower

end SslMode

/-- The settings of the database server, as they were found to be usable. -/
structure Config where
  user : String
  password : String
  host : String
  hostPort : Nat
  name : String
  sslMode : SslMode
deriving DecidableEq, Repr, Inhabited

/-- Where a connection goes, and as whom. -/
structure Target where
  host : String
  port : Nat
  username : String
  password : String
  database : String
  sslMode : SslMode
deriving DecidableEq, Repr, Inhabited

namespace Config

/-- The database that every server has. -/
def adminDatabase : String := "postgres"

/-- A connection to one of the server's databases. -/
def target (c : Config) (database : String) : Target :=
  ⟨c.host, c.hostPort, c.user, c.password, database, c.sslMode⟩

/-- The connection over which the database is made. -/
def adminTarget (c : Config) : Target := c.target adminDatabase

/-- The connection over which the script runs. -/
def ownTarget (c : Config) : Target := c.target c.name

/-- Whether a character may begin a plain identifier. -/
def beginsIdentifier (c : Char) : Bool := ('a' ≤ c && c ≤ 'z') || c == '_'

/-- Whether a character may go on in a plain identifier. -/
def continuesIdentifier (c : Char) : Bool :=
  beginsIdentifier c || ('0' ≤ c && c ≤ '9') || c == '$'

/-- Whether a name means itself in a statement without quotation marks. -/
def isPlainIdentifier (name : String) : Bool :=
  match name.toList with
  | [] => false
  | c :: cs => beginsIdentifier c && cs.all continuesIdentifier

/-- What stands in place of the password wherever settings are shown. -/
def redacted : String := "<redacted>"

/-- The settings as text, without the password. -/
def describe (c : Config) : String :=
  "DatabaseConfig \x7b " ++ ", ".intercalate [
    s!"user: {Text.quoted c.user}", s!"password: {Text.quoted redacted}",
    s!"host: {Text.quoted c.host}", s!"host_port: {c.hostPort}",
    s!"name: {Text.quoted c.name}", s!"ssl_mode: {c.sslMode.name}"] ++ " \x7d"

/-- The description shows nothing of the password. -/
theorem describe_password (c : Config) (password : String) :
    { c with password }.describe = c.describe := rfl

end Config

end DatabaseResource
