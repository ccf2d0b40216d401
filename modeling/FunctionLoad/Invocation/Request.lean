import FunctionLoad.Catalog
import FunctionLoad.Duration
import FunctionLoad.Invocation.Mode
import FunctionLoad.Json.Printer
import FunctionLoad.Log.Event
import FunctionLoad.Trend
import FunctionLoad.Url.Reader

/-!
# Requests

* `Invocation.Error`: why a function cannot be invoked.
* `endpoint`: the address of a function.
* `envelope`, **`wrap`**: an input under its key, and its text, whose size goes to a sink.
* `tryWrap`: the same for an input that may have no JSON.
* `Request`, **`Request.url`**: a request, and its address as a URL of the web.
-/

namespace FunctionLoad.Invocation

open FunctionLoad.Decimal

/-- Why a function cannot be invoked. -/
inductive Error where
  | invalidUrl (reason : Url.Error)
  | unsupportedScheme (scheme : String)
  | workload (reason : Catalog.Error)
  deriving Repr, DecidableEq

/-- The wording of an error. -/
def Error.message : Error → String
  | .invalidUrl reason => "Invalid URL: " ++ reason.message
  | .unsupportedScheme scheme =>
    "Unsupported URL scheme '" ++ scheme ++ "', expected http or https"
  | .workload reason => "Workload error: " ++ reason.message

/-- The wordings of an error and of what caused it. -/
def Error.chain (e : Error) : List String :=
  match e with
  | .invalidUrl reason => [e.message, reason.message]
  | .unsupportedScheme _ => [e.message]
  | .workload reason => [e.message, reason.message]

/-- A URL of the web. -/
def webUrl (s : String) : Except Error Url := do
  let url ← (Url.parse s).mapError .invalidUrl
  if url.isWeb then return url else throw (.unsupportedScheme url.schemeText)

/-! ## Addresses and bodies -/

/-- What stands between the address of a platform and the name of a function. -/
def functionsPath : String := "/v1/functions/"

/-- The address of a function. -/
def endpoint (function baseUrl : String) (mode : Mode) : String :=
  baseUrl ++ functionsPath ++ function ++ ":" ++ mode.verb

/-- An input under its key. -/
def envelope (input : Json.Value) : Json.Value :=
  .object [("input", input)]

/-- The number of bytes of a text. -/
def size (s : String) : UInt64 :=
  UInt64.ofNat s.utf8ByteSize

/-- **The body for an input**, and the sink with its size. -/
def wrap {σ : Type} [Sink σ] (input : Json.Value) (sink : σ) : Logged (String × σ) := do
  let body := (envelope input).compact
  Logged.note .trace ("Wrapped invocation payload of " ++ decimal body.utf8ByteSize ++ " bytes")
  return (body, Sink.record payloadSize (size body) sink)

/-- Why an input has no JSON. -/
structure InvalidJson where
  reason : String
  deriving Repr, DecidableEq

/-- The wording of the error. -/
def InvalidJson.message (e : InvalidJson) : String :=
  "Invalid JSON: " ++ e.reason

/-- The body for an input that may have no JSON. Without it the sink stays as it is. -/
def tryWrap {σ : Type} [Sink σ] (input : Except InvalidJson Json.Value) (sink : σ) :
    Logged (Except InvalidJson String × σ) :=
  match input with
  | .error e => pure (.error e, sink)
  | .ok v => (fun p => (.ok p.1, p.2)) <$> wrap v sink

/-! ## Requests -/

/-- The type of all bodies. -/
def contentType : String := "application/json"

/-- The method of all requests. -/
def method : String := "POST"

/-- A request for a function. -/
structure Request where
  address : String
  body : String
  timeout : Duration
  deriving Repr, DecidableEq

/-- **The address of a request as a URL of the web.** -/
def Request.url (r : Request) : Except Error Url :=
  webUrl r.address

/-- A request as it goes out. -/
structure Outgoing where
  url : Url
  headers : List (String × String)
  body : String
  timeout : Duration
  deriving Repr

/-- The request as it goes out, if its address is a URL of the web. -/
def Request.outgoing (r : Request) : Except Error Outgoing :=
  r.url.map fun url => ⟨url, [("content-type", contentType)], r.body, r.timeout⟩

end FunctionLoad.Invocation
