/-
# ODataGateway.Settings — what the service is told by its environment.

Three variables decide whether there are settings at all, and they are looked at in a fixed order:
the address of the source, the number to listen on, and the time limit.  The others cannot be
wrong.  Credentials are in force as soon as one half of a pair is there, blanks included.

An environment that gives no settings ends the program: the reason goes to the error stream behind
a fixed word, and the exit code is 1.
-/
import ODataGateway.Http.Credentials
import ODataGateway.Number.Binary64
import ODataGateway.Url.Reader

namespace ODataGateway

/-! ## Environments -/

/-- Variables with their values; of a repeated name the first counts. -/
abbrev Environment := List (String × String)

/-- The value of a variable without the blanks around it; a blank value is none. -/
def Environment.filled? (env : Environment) (name : String) : Option String :=
  ((env.lookup name).map Text.trimmed).filter fun s => !s.isEmpty

/-- The value of a variable as it is; a missing one is empty. -/
def Environment.verbatim (env : Environment) (name : String) : String :=
  (env.lookup name).getD ""

/-! ## Errors -/

/-- Why an environment gives no settings. -/
inductive SettingsError where
  | missing (name : String)
  | notAnAddress (name : String)
  | notASocketNumber (name : String)
  | notAnInteger (name : String)
  | notPositive (name : String)
deriving DecidableEq, Repr

namespace SettingsError

/-- The code of an error: something is missing, or something is wrong. -/
def code : SettingsError → String
  | missing _ => "ERR_MISSING_CONFIG"
  | _ => "ERR_INVALID_CONFIG"

/-- The wording of an error. -/
def message : SettingsError → String
  | missing v => s!"missing required config key {v}"
  | notAnAddress v => s!"{v} must be an absolute URL"
  | notASocketNumber v => s!"{v} must be a port number"
  | notAnInteger v => s!"{v} must be an integer"
  | notPositive v => s!"{v} must be > 0"

/-- Code and wording. -/
def display (e : SettingsError) : String := s!"{e.code}: {e.message}"

end SettingsError

/-! ## Settings -/

/-- What a running service goes by. -/
structure Settings where
  /-- The number of the socket to listen on, on all interfaces. -/
  socketNumber : Nat := 3000
  /-- The address of the source, as given. -/
  sourceUrl : String
  sourceCredentials : Option Credentials := none
  /-- What clients have to send; without it everyone is let in. -/
  clientCredentials : Option Credentials := none
  /-- How long the source may take, in milliseconds. -/
  timeLimit : Nat := 10000
  /-- Whether a filter that cannot be read is an error of the client. -/
  strictFilter : Bool := false
deriving DecidableEq

namespace Settings

/-- Where the service listens. -/
def listenAddress (s : Settings) : String := s!"0.0.0.0:{s.socketNumber}"

/-- A natural number up to a limit: decimal digits, perhaps after a plus. -/
def natural? (limit : Nat) (s : String) : Option Nat :=
  let ds := match s.toList with
    | '+' :: r => r
    | r => r
  if ds.isEmpty || !ds.all Char.isDigit then none
  else
    let n := Numeral.digitsValue ds
    if n ≤ limit then some n else none

/-- A natural number in a variable, or its default where the variable is missing or blank. -/
def naturalOf (env : Environment) (name : String) (limit default : Nat)
    (wrong : String → SettingsError) : Except SettingsError Nat :=
  match env.filled? name with
  | none => .ok default
  | some s => ((natural? limit s).map Except.ok).getD (.error (wrong name))

/-- A pair of credentials, unless both halves are missing or empty. -/
def credentialsOf (env : Environment) (name word : String) : Option Credentials :=
  let c : Credentials := ⟨env.verbatim name, env.verbatim word⟩
  if c.username.isEmpty && c.password.isEmpty then none else some c

/-- Whether a variable says yes; all other words say no. -/
def saysYes (env : Environment) (name : String) : Bool :=
  match env.filled? name with
  | none => false
  | some s => ["1", "true", "TRUE", "yes", "YES"].contains s

/-- The settings in an environment, or the first thing that is wrong with it. -/
def ofEnvironment (env : Environment) : Except SettingsError Settings := do
  let sourceUrl ← match env.filled? "UPSTREAM_URL" with
    | none => throw (.missing "UPSTREAM_URL")
    | some s => if (Url.parse? s).isSome then pure s else throw (.notAnAddress "UPSTREAM_URL")
  let socketNumber ← naturalOf env "PORT" 65535 3000 .notASocketNumber
  let timeLimit ← naturalOf env "UPSTREAM_TIMEOUT_MS" Binary64.maxCount 10000 .notAnInteger
  if timeLimit = 0 then throw (.notPositive "UPSTREAM_TIMEOUT_MS")
  return {
    socketNumber, sourceUrl, timeLimit
    sourceCredentials := credentialsOf env "UPSTREAM_USERNAME" "UPSTREAM_PASSWORD"
    clientCredentials := credentialsOf env "ODATA_USERNAME" "ODATA_PASSWORD"
    strictFilter := saysYes env "ODATA_STRICT_QUERY" }

/-- The settings for a source with everything else at its default.  The address is not looked
into. -/
def ofSource (sourceUrl : String) : Settings := { sourceUrl }

end Settings

/-! ## Starting -/

/-- What a run of the program leaves behind. -/
structure Startup where
  exitCode : Nat
  output : String
  errors : String
deriving DecidableEq, Repr

namespace Startup

/-- The end of a program that was refused its environment. -/
def refused (e : SettingsError) : Startup := ⟨1, "", s!"STARTUP_ERROR {e.display}\n"⟩

/-- The end of a program that found nothing wrong. -/
def accepted : Startup := ⟨0, "", ""⟩

/-- What comes of an environment. -/
def ofEnvironment (env : Environment) : Startup :=
  match Settings.ofEnvironment env with
  | .ok _ => accepted
  | .error e => refused e

/-- The variables that are looked at. -/
def variableNames : List String :=
  ["UPSTREAM_URL", "PORT", "UPSTREAM_TIMEOUT_MS", "UPSTREAM_USERNAME", "UPSTREAM_PASSWORD",
   "ODATA_USERNAME", "ODATA_PASSWORD", "ODATA_STRICT_QUERY"]

end Startup

end ODataGateway
