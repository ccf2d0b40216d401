import FunctionLoad.Settings.Requirement
import FunctionLoad.Selection.Mode
import FunctionLoad.Invocation.Mode
import FunctionLoad.Duration

/-!
# Settings of a run

* `Target`, `Pool`, `Logging`, `Settings`: where functions are, where payloads come from, how
  events are logged; the field defaults are the settings of a run that says nothing.
* `Domain`: one of the three parts by name.
* `Refusal`: a part that breaks a requirement.
* **`Settings.check`**: whether all parts satisfy their requirements.
-/

namespace FunctionLoad

/-- Where functions are and how they are invoked. -/
structure Target where
  baseUrl : String := "http://localhost:30080"
  mode : Invocation.Mode := .sync
  timeout : Duration := .ofSeconds 30
  deriving Repr, DecidableEq

/-- How many payloads a run without a pool size of its own chooses from. -/
def defaultPoolSize : UInt64 := 5000

/-- Where payloads come from. -/
structure Pool where
  mode : Selection.Mode := .legacyRandom
  size : UInt64 := defaultPoolSize
  deriving Repr, DecidableEq

/-- How events are logged. -/
structure Logging where
  level : Log.Level := .info
  format : Log.Format := .text
  deriving Repr, DecidableEq

/-- The settings of a run. -/
structure Settings where
  target : Target := {}
  payload : Pool := {}
  logging : Logging := {}
  deriving Repr, DecidableEq

namespace Settings

/-- A part of the settings. -/
inductive Domain where
  | target
  | payload
  | logging
  deriving Repr, DecidableEq

namespace Domain

/-- All parts, in the order in which they are checked. -/
def all : List Domain := [.target, .payload, .logging]

/-- The name of a part. -/
def name : Domain → String
  | .target => "target"
  | .payload => "payload"
  | .logging => "logging"

/-- The wording of a fault of this part. -/
def fault (d : Domain) (reason : String) : String :=
  "Domain configuration error in " ++ d.name ++ ": " ++ reason

end Domain

/-- A part that breaks a requirement. -/
structure Refusal where
  domain : Domain
  violation : Violation
  deriving Repr, DecidableEq

/-- The wording of a refusal. -/
def Refusal.message (r : Refusal) : String :=
  r.domain.fault r.violation.message

/-- A requirement as one of a part. -/
def within (d : Domain) (x : Except Violation Unit) : Except Refusal Unit :=
  x.mapError (⟨d, ·⟩)

end Settings

open Settings

/-- A target has a URL of the web and waits for at least one second. -/
def Target.check (t : Target) : Except Refusal Unit :=
  within .target do
    httpUrl "base_url" t.baseUrl
    positive "timeout" t.timeout.seconds

/-- A pool has at least one slot. -/
def Pool.check (p : Pool) : Except Refusal Unit :=
  within .payload (positive "pool_size" p.size.toNat)

/-- Every way to log is fine. -/
def Logging.check (_ : Logging) : Except Refusal Unit :=
  .ok ()

/-- **Whether all parts satisfy their requirements**; the first refusal otherwise. -/
def Settings.check (s : Settings) : Except Refusal Unit := do
  s.target.check
  s.payload.check
  s.logging.check

end FunctionLoad
