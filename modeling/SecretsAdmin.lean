import SecretsAdmin.Base64
import SecretsAdmin.Client.Administration
import SecretsAdmin.Client.Agent
import SecretsAdmin.Client.Call
import SecretsAdmin.Client.Connection
import SecretsAdmin.Client.Error
import SecretsAdmin.Client.Operation
import SecretsAdmin.Client.Payload
import SecretsAdmin.Client.Refusal
import SecretsAdmin.Client.Script
import SecretsAdmin.Client.Session
import SecretsAdmin.Decimal.Binary64
import SecretsAdmin.Decimal.Layout
import SecretsAdmin.Decimal.Shortest
import SecretsAdmin.Http.MediaType
import SecretsAdmin.Http.Message
import SecretsAdmin.Http.Target
import SecretsAdmin.Json.Codec
import SecretsAdmin.Json.Fault
import SecretsAdmin.Json.Printer
import SecretsAdmin.Json.Read
import SecretsAdmin.Json.Scan
import SecretsAdmin.Json.Skip
import SecretsAdmin.Json.Value
import SecretsAdmin.Model.Identifier
import SecretsAdmin.Model.Request
import SecretsAdmin.Model.Response
import SecretsAdmin.OrderedMap
import SecretsAdmin.OrderedMap.Lemmas
import SecretsAdmin.Proofs.Base64
import SecretsAdmin.Proofs.Client.Addresses
import SecretsAdmin.Proofs.Client.Clientele
import SecretsAdmin.Proofs.Client.Cookies
import SecretsAdmin.Proofs.Client.Creation
import SecretsAdmin.Proofs.Client.Exchange
import SecretsAdmin.Proofs.Client.Login
import SecretsAdmin.Proofs.Client.Loopback
import SecretsAdmin.Proofs.Client.Performing
import SecretsAdmin.Proofs.Client.Receiving
import SecretsAdmin.Proofs.Json.Document
import SecretsAdmin.Proofs.Json.Length
import SecretsAdmin.Proofs.Json.Number
import SecretsAdmin.Proofs.Json.Record
import SecretsAdmin.Proofs.Json.Text
import SecretsAdmin.Proofs.Model.View
import SecretsAdmin.Proofs.Server.Atomicity
import SecretsAdmin.Proofs.Server.Change
import SecretsAdmin.Proofs.Server.Generation
import SecretsAdmin.Proofs.Server.Integrity
import SecretsAdmin.Proofs.Server.Membership
import SecretsAdmin.Proofs.Server.Numbering
import SecretsAdmin.Proofs.Server.Path
import SecretsAdmin.Proofs.Server.Reading
import SecretsAdmin.Proofs.Server.Run
import SecretsAdmin.Proofs.Server.Serving
import SecretsAdmin.Proofs.Server.Strangers
import SecretsAdmin.Proofs.Server.Users
import SecretsAdmin.Proofs.Text.Utf8
import SecretsAdmin.Proofs.Url.Authority
import SecretsAdmin.Proofs.Url.Target
import SecretsAdmin.Server.Argument
import SecretsAdmin.Server.Command
import SecretsAdmin.Server.Input
import SecretsAdmin.Server.Link
import SecretsAdmin.Server.Loopback
import SecretsAdmin.Server.Record
import SecretsAdmin.Server.Rejection
import SecretsAdmin.Server.Request
import SecretsAdmin.Server.Route
import SecretsAdmin.Server.Serve
import SecretsAdmin.Server.Store
import SecretsAdmin.Text.Blank
import SecretsAdmin.Text.Cut
import SecretsAdmin.Text.Hex
import SecretsAdmin.Text.Quoted
import SecretsAdmin.Text.Shapeless
import SecretsAdmin.Text.Utf8
import SecretsAdmin.Unicode.Bidi
import SecretsAdmin.Unicode.Combining
import SecretsAdmin.Unicode.Composition
import SecretsAdmin.Unicode.Joining
import SecretsAdmin.Unicode.Runs
import SecretsAdmin.Unicode.Validity
import SecretsAdmin.Url.Basic
import SecretsAdmin.Url.Fault
import SecretsAdmin.Url.Form
import SecretsAdmin.Url.Host
import SecretsAdmin.Url.Ipv4
import SecretsAdmin.Url.Ipv6
import SecretsAdmin.Url.Label
import SecretsAdmin.Url.Parse
import SecretsAdmin.Url.Percent
import SecretsAdmin.Url.Punycode
import SecretsAdmin.Url.Resolve
import SecretsAdmin.Url.Segments
import SecretsAdmin.Proofs.Text.Hex
import SecretsAdmin.Proofs.Server.Names
import SecretsAdmin.Proofs.Server.Objects
import SecretsAdmin.Proofs.Server.Lifetime
import SecretsAdmin.Proofs.Server.Listing
import SecretsAdmin.Proofs.Url.Encoding
import SecretsAdmin.Proofs.Url.Segments
import SecretsAdmin.Proofs.Url.Resolution
import SecretsAdmin.Proofs.Client.Locating
import SecretsAdmin.Proofs.Server.Acceptance
import SecretsAdmin.Proofs.Client.Lookup
import SecretsAdmin.Proofs.Client.Identified
import SecretsAdmin.Proofs.Client.Understanding
import SecretsAdmin.Proofs.Text.Blank
import SecretsAdmin.Proofs.Text.Decoding
import SecretsAdmin.Proofs.Server.Access
import SecretsAdmin.Proofs.Client.Jar
import SecretsAdmin.Proofs.Model.RoundTrip
import SecretsAdmin.Proofs.Json.Grammar
import SecretsAdmin.Proofs.Json.Layout
import SecretsAdmin.Proofs.Json.Skipping
import SecretsAdmin.Proofs.Json.Deciding
import SecretsAdmin.Proofs.Json.Collecting
import SecretsAdmin.Proofs.Json.Assembly
import SecretsAdmin.Proofs.Json.Column
import SecretsAdmin.Proofs.Model.Leniency
import SecretsAdmin.Proofs.Client.Generators
import SecretsAdmin.Proofs.Server.Repetition
import SecretsAdmin.Proofs.Server.Batch
import SecretsAdmin.Proofs.Client.Content
import SecretsAdmin.Proofs.Base64.Standard
import SecretsAdmin.Proofs.Server.Content
import SecretsAdmin.Proofs.Server.Template
import SecretsAdmin.Proofs.Client.Replacement
import SecretsAdmin.Proofs.Server.Versions
import SecretsAdmin.Proofs.Server.Parameters
