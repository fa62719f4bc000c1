import WebPush.Envelope.Decrypt
import WebPush.Main
import WebPush.Vapid.Token
import WebPush.Proofs.Curve.Jacobian
import WebPush.Proofs.Curve.Order
import WebPush.Proofs.Bytes
import WebPush.Proofs.Key.Codec
import WebPush.Proofs.Envelope.Header
import WebPush.Proofs.Envelope.Records
import WebPush.Proofs.Envelope.Message
import WebPush.Proofs.Base64Url
import WebPush.Proofs.Envelope.RoundTrip
import WebPush.Proofs.Text.Utf8
import WebPush.Proofs.Text.Ascii
import WebPush.Proofs.Text.Blank
import WebPush.Proofs.Text.Split
import WebPush.Proofs.Json.Integer
import WebPush.Proofs.Json.Strings
import WebPush.Proofs.Json.Objects
import WebPush.Proofs.Json.Depth
import WebPush.Proofs.Curve.Ecdsa
import WebPush.Proofs.Vapid.Segments
import WebPush.Proofs.Vapid.Authentication
import WebPush.Proofs.Vapid.RoundTrip
import WebPush.Proofs.Service.Steps
import WebPush.Proofs.Service.Requests
import WebPush.Proofs.Vapid.Soundness
import WebPush.Proofs.Vapid.Claims
import WebPush.Proofs.Vapid.Rejections
import WebPush.Proofs.Except
import WebPush.Proofs.Seconds
import WebPush.Proofs.Envelope.Boundaries
import WebPush.Proofs.Envelope.Nonces
import WebPush.Proofs.Service.Outcomes
import WebPush.Proofs.Service.HeaderValues
import WebPush.Proofs.Url.Target
import WebPush.Proofs.Sender.Outcomes
import WebPush.Proofs.Url.Authority
import WebPush.Proofs.Url.Address
import WebPush.Proofs.Url.Origin
import WebPush.Proofs.Service.Addressing
import WebPush.Proofs.Service.Credentials
import WebPush.Proofs.Service.Identity
import WebPush.Proofs.Envelope.Effects
import WebPush.Proofs.Envelope.Reference
import WebPush.Proofs.Service.Draws
import WebPush.Proofs.Sender.Freshness
import WebPush.Proofs.Sender.Disclosure
import WebPush.Proofs.CommandLine.Parameter
import WebPush.Proofs.Number.Literal
import WebPush.Proofs.Number.Double
import WebPush.Proofs.Number.Real
import WebPush.Proofs.Settings
import WebPush.Proofs.Subscription.Browser
import WebPush.Proofs.Subscription.Acceptance
import WebPush.Proofs.Subscription.Stored
import WebPush.Proofs.Sender.Configuration
import WebPush.Proofs.Sender.Arrival
import WebPush.Proofs.Lookup
import WebPush.Proofs.Environment.File
import WebPush.Proofs.Session
import WebPush.Proofs.Session.LoadedFile
import WebPush.Proofs.Session.Snapshot
import WebPush.Proofs.Session.Logging
import WebPush.Proofs.Session.Sender
import WebPush.Proofs.CommandLine.Generate
import WebPush.Proofs.CommandLine.Send
import WebPush.Proofs.CommandLine.Reports
import WebPush.Proofs.Base64Url.Grammar
import WebPush.Proofs.Key.Acceptance
import WebPush.Proofs.Text.Lines
import WebPush.Proofs.Environment.Grammar
import WebPush.Proofs.Environment.Update
import WebPush.Proofs.Session.SettingsFile
