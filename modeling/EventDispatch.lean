import EventDispatch.Config.Toml.Printer
import EventDispatch.Handler.Probe
import EventDispatch.Main
import EventDispatch.Proofs.Broker.Correlation
import EventDispatch.Proofs.Service.SendAll
import EventDispatch.Proofs.Service.Closing
import EventDispatch.Proofs.Service.Listening
import EventDispatch.Proofs.Broker.RequestPlaces
import EventDispatch.Proofs.Service.Chronicle
import EventDispatch.Proofs.Service.Provenance
import EventDispatch.Proofs.Handler.FastPath
import EventDispatch.Proofs.Handler.InStep
import EventDispatch.Proofs.Service.Accounting
import EventDispatch.Proofs.Message.Response
import EventDispatch.Proofs.Message.Request
import EventDispatch.Proofs.Service.FailureReport
import EventDispatch.Proofs.Service.Lifecycle
import EventDispatch.Proofs.Json.Rounding
import EventDispatch.Proofs.Pattern.Order
import EventDispatch.Proofs.Pattern.Pairing
import EventDispatch.Proofs.Pattern.FullMatch
import EventDispatch.Proofs.Pattern.Rewording
import EventDispatch.Proofs.Pattern.Equivalence
import EventDispatch.Proofs.Pattern.Permutation
import EventDispatch.Proofs.Pattern.Containment
import EventDispatch.Proofs.Handler.Leniency
import EventDispatch.Proofs.Trigger.Acknowledgement
import EventDispatch.Proofs.Json.NumeralForm
import EventDispatch.Proofs.Json.Reading
import EventDispatch.Proofs.Json.ReadBack
import EventDispatch.Proofs.Decode.Likeness
import EventDispatch.Proofs.Trigger.Envelope
import EventDispatch.Proofs.Trigger.Unwrapping
import EventDispatch.Proofs.Trigger.Gateway
import EventDispatch.Proofs.Trigger.Identifier
import EventDispatch.Proofs.Service.Normalization
import EventDispatch.Proofs.Broker.Delivery
import EventDispatch.Proofs.Broker.AwaitedRequest
import EventDispatch.Proofs.Service.StreamShape
import EventDispatch.Proofs.Trigger.Attributes
import EventDispatch.Proofs.Handler.Grouping
import EventDispatch.Proofs.Config.Precedence
import EventDispatch.Proofs.Service.Disclosure
