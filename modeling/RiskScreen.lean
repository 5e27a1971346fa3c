import RiskScreen.Text.Alphabetic
import RiskScreen.Text.Numeric
import RiskScreen.Text.Blank
import RiskScreen.Text.Split
import RiskScreen.Text.Digits
import RiskScreen.Path.Reader
import RiskScreen.Document.Insert
import RiskScreen.Document.Markup
import RiskScreen.Payload
import RiskScreen.Scoring.Response
import RiskScreen.Number.Binary64
import RiskScreen.Number.Decimal
import RiskScreen.Uuid
import RiskScreen.Timestamp
import RiskScreen.Json.Basic
import RiskScreen.Json.Numeral
import RiskScreen.Json.Token
import RiskScreen.Json.Decode
import RiskScreen.Wire.Outcome
import RiskScreen.Payment.Plugins
import RiskScreen.Scoring.Settings
import RiskScreen.Wire.Settings
import RiskScreen.Config
import RiskScreen.Timed
import RiskScreen.Scoring.Scorer
import RiskScreen.Trail.Error
import RiskScreen.Trail.Basic
import RiskScreen.Tenant.Registry
import RiskScreen.Assessment.Event
import RiskScreen.Assessment.Basic
import RiskScreen.Text.Utf8
import RiskScreen.Text.Percent
import RiskScreen.Text.Base64
import RiskScreen.Url.Basic
import RiskScreen.Url.Punycode
import RiskScreen.Url.HostRanges
import RiskScreen.Url.Address
import RiskScreen.Url.Host
import RiskScreen.Url.Reader
import RiskScreen.Remote.Client
import RiskScreen.Remote.Peer
import RiskScreen.Remote.Exchange
import RiskScreen.Http.Target
import RiskScreen.Http.Header
import RiskScreen.Http.ContentType
import RiskScreen.Http.Message
import RiskScreen.Wire.Assessment
import RiskScreen.Gateway.Route
import RiskScreen.Gateway.Basic
import RiskScreen.Gateway.Input
import RiskScreen.Gateway.Handle
import RiskScreen.Trail.Column
import RiskScreen.Trail.Table
import RiskScreen.Wire.Table
import RiskScreen.Proofs.Text.ByteOrder
import RiskScreen.Proofs.Markup.Escape
import RiskScreen.Proofs.Markup.Element
import RiskScreen.Proofs.Assessment.Decision
import RiskScreen.Proofs.Document.Reference
import RiskScreen.Proofs.Document.ReadBack
import RiskScreen.Proofs.Document.Child
import RiskScreen.Proofs.Document.Write
import RiskScreen.Proofs.Document.Built
import RiskScreen.Proofs.Document.Placement
import RiskScreen.Proofs.Document.History
import RiskScreen.Proofs.Markup.Address
import RiskScreen.Proofs.Document.Descent
import RiskScreen.Proofs.Payload
import RiskScreen.Proofs.Assessment.Effects
import RiskScreen.Proofs.Document.Clash
import RiskScreen.Proofs.Document.Named
import RiskScreen.Proofs.Refusal
import RiskScreen.Proofs.Markup.Cut
import RiskScreen.Proofs.Markup.Pieces
import RiskScreen.Proofs.Markup.Item
import RiskScreen.Proofs.Scoring.Outline
import RiskScreen.Proofs.Scoring.Body
import RiskScreen.Proofs.Scoring.Verdict
import RiskScreen.Proofs.Scoring.Origin
import RiskScreen.Proofs.Text.Split
import RiskScreen.Proofs.Gateway.Route
import RiskScreen.Proofs.Gateway.Effect
import RiskScreen.Proofs.Gateway.Run
import RiskScreen.Proofs.Gateway.Trail
import RiskScreen.Proofs.Gateway.Administration
import RiskScreen.Proofs.Document.Hollow
import RiskScreen.Proofs.Assessment.Secrecy
import RiskScreen.Proofs.Text.Digits
import RiskScreen.Proofs.Timestamp
import RiskScreen.Proofs.Trail.Table
import RiskScreen.Proofs.Document.Attempt
import RiskScreen.Proofs.Markup.Character
import RiskScreen.Proofs.Legality
import RiskScreen.Proofs.Tenant.History
import RiskScreen.Proofs.Gateway.Screening
import RiskScreen.Proofs.Path.Piece
import RiskScreen.Proofs.Path.Grammar
import RiskScreen.Proofs.Path.Fault
import RiskScreen.Proofs.Document.Within
import RiskScreen.Proofs.Document.Form
import RiskScreen.Proofs.Remote.Exchange
import RiskScreen.Proofs.Remote.Status
import RiskScreen.Proofs.Document.Written
import RiskScreen.Proofs.Text.Trim
import RiskScreen.Proofs.Markup.Unescape
import RiskScreen.Proofs.Scoring.Message
import RiskScreen.Proofs.Scoring.Spelling
import RiskScreen.Proofs.Markup.Break
import RiskScreen.Proofs.Scoring.CutOff
import RiskScreen.Proofs.Scoring.Trailing
import RiskScreen.Proofs.Trail.Listing
import RiskScreen.Proofs.Gateway.Listing
import RiskScreen.Proofs.Document.Size
import RiskScreen.Proofs.Amplification
import RiskScreen.Proofs.Text.Padded
import RiskScreen.Proofs.Json.Scan
import RiskScreen.Proofs.Json.Written
import RiskScreen.Proofs.Json.Record
import RiskScreen.Proofs.Uuid
import RiskScreen.Proofs.Number.Decimal
import RiskScreen.Proofs.Timestamp.Written
import RiskScreen.Proofs.Wire.RoundTrip
import RiskScreen.Proofs.Markup.XmlName
import RiskScreen.Proofs.Naming
import RiskScreen.Proofs.Payment.Plugins
