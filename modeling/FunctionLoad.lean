import FunctionLoad.Main
import FunctionLoad.Proofs.Invocation.Usable
import FunctionLoad.Proofs.Json.Reader
import FunctionLoad.Proofs.Json.RoundTrip
import FunctionLoad.Proofs.Catalog
import FunctionLoad.Proofs.Payload.Cycle
import FunctionLoad.Proofs.Payload.JsonTransform
import FunctionLoad.Proofs.Payload.Replay
import FunctionLoad.Proofs.Payload.RoundTrip
import FunctionLoad.Proofs.Payload.Sentences
import FunctionLoad.Proofs.Payload.Size
import FunctionLoad.Proofs.Payload.Run
import FunctionLoad.Proofs.Payload.WordStats
import FunctionLoad.Proofs.Settings.File
import FunctionLoad.Proofs.Settings.Layer
import FunctionLoad.Proofs.Settings.RoundTrip
import FunctionLoad.Proofs.Invocation.Verdict
import FunctionLoad.Proofs.Settings.Pool
import FunctionLoad.Proofs.Trend.Order
import FunctionLoad.Proofs.Url.Component
import FunctionLoad.Proofs.Invocation.Endpoint
import FunctionLoad.Proofs.Json.Canonical
import FunctionLoad.Proofs.Preview
import FunctionLoad.Proofs.Payload.Groups
import FunctionLoad.Proofs.Payload.Query
import FunctionLoad.Proofs.Invocation.Checks
import FunctionLoad.Proofs.Settings.NumberGrammar
import FunctionLoad.Proofs.Trend.Percentile
import FunctionLoad.Proofs.Invocation.Gates
import FunctionLoad.Proofs.Settings.Warnings
import FunctionLoad.Proofs.Catalog.Nameless
