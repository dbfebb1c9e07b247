import ComposeDesk.Api.Answer
import ComposeDesk.Api.MediaType
import ComposeDesk.Api.Message
import ComposeDesk.Api.Query
import ComposeDesk.Api.Route
import ComposeDesk.Base64
import ComposeDesk.Build.Answer
import ComposeDesk.Build.Customizations
import ComposeDesk.Build.Order
import ComposeDesk.Build.Upload
import ComposeDesk.Calendar.Date
import ComposeDesk.Calendar.Reader
import ComposeDesk.Calendar.Timestamp
import ComposeDesk.Client.Build
import ComposeDesk.Client.Catalog
import ComposeDesk.Client.Http
import ComposeDesk.Client.Policy
import ComposeDesk.Client.Script
import ComposeDesk.Client.Services
import ComposeDesk.Client.Token
import ComposeDesk.Config
import ComposeDesk.Customize
import ComposeDesk.Decimal.Digits
import ComposeDesk.Decimal.Shortest
import ComposeDesk.Desk.Basic
import ComposeDesk.Desk.Blueprint
import ComposeDesk.Desk.Clone
import ComposeDesk.Desk.Compose
import ComposeDesk.Distribution
import ComposeDesk.Downstream.Basic
import ComposeDesk.Downstream.Catalog
import ComposeDesk.Downstream.Policy
import ComposeDesk.Downstream.Reply
import ComposeDesk.Downstream.Source
import ComposeDesk.Error
import ComposeDesk.Identity
import ComposeDesk.ImageType
import ComposeDesk.Json.Basic
import ComposeDesk.Json.Codec
import ComposeDesk.Json.Fault
import ComposeDesk.Json.Numeral
import ComposeDesk.Json.Reader
import ComposeDesk.Json.Record
import ComposeDesk.Json.Writer
import ComposeDesk.Metrics
import ComposeDesk.Proofs.Alike
import ComposeDesk.Proofs.Api.Failures
import ComposeDesk.Proofs.Api.Responses
import ComposeDesk.Proofs.Atomicity
import ComposeDesk.Proofs.Confined
import ComposeDesk.Proofs.Consistency
import ComposeDesk.Proofs.Credentials
import ComposeDesk.Proofs.Deletion
import ComposeDesk.Proofs.Discretion
import ComposeDesk.Proofs.Drafting
import ComposeDesk.Proofs.Failures
import ComposeDesk.Proofs.History
import ComposeDesk.Proofs.Isolation
import ComposeDesk.Proofs.Issue
import ComposeDesk.Proofs.Itemwise
import ComposeDesk.Proofs.Journal
import ComposeDesk.Proofs.Json.Codec
import ComposeDesk.Proofs.Json.Record
import ComposeDesk.Proofs.Json.Reordered
import ComposeDesk.Proofs.Keyed
import ComposeDesk.Proofs.Ledger
import ComposeDesk.Proofs.Listings
import ComposeDesk.Proofs.Lookup
import ComposeDesk.Proofs.Operation
import ComposeDesk.Proofs.Ordering
import ComposeDesk.Proofs.Outcome
import ComposeDesk.Proofs.Paging
import ComposeDesk.Proofs.Plan
import ComposeDesk.Proofs.Provenance
import ComposeDesk.Proofs.Quota
import ComposeDesk.Proofs.Race
import ComposeDesk.Proofs.Reading
import ComposeDesk.Proofs.Redaction
import ComposeDesk.Proofs.Refusal
import ComposeDesk.Proofs.Remembered
import ComposeDesk.Proofs.Request.Body
import ComposeDesk.Proofs.Request.Credentials
import ComposeDesk.Proofs.Request.Customizations
import ComposeDesk.Proofs.Request.Likeness
import ComposeDesk.Proofs.Request.Upload
import ComposeDesk.Proofs.Resubmission
import ComposeDesk.Proofs.Revision
import ComposeDesk.Proofs.Rush
import ComposeDesk.Proofs.Shown
import ComposeDesk.Proofs.Store.Change
import ComposeDesk.Proofs.Store.History
import ComposeDesk.Proofs.Store.Lasting
import ComposeDesk.Proofs.Store.Legible
import ComposeDesk.Proofs.Store.Likeness
import ComposeDesk.Proofs.Store.Listings
import ComposeDesk.Proofs.Store.Look
import ComposeDesk.Proofs.Store.Mirror
import ComposeDesk.Proofs.Store.Numbered
import ComposeDesk.Proofs.Store.Own
import ComposeDesk.Proofs.Store.Provenance
import ComposeDesk.Proofs.Store.Recount
import ComposeDesk.Proofs.Store.Run
import ComposeDesk.Proofs.Store.Sound
import ComposeDesk.Proofs.Store.Stamps
import ComposeDesk.Proofs.Store.Write
import ComposeDesk.Proofs.Submission
import ComposeDesk.Proofs.Unknown
import ComposeDesk.Proofs.Uuid
import ComposeDesk.Proofs.Watching
import ComposeDesk.Proofs.Writing
import ComposeDesk.Quota
import ComposeDesk.Registry
import ComposeDesk.Repositories
import ComposeDesk.Request.Blueprint
import ComposeDesk.Request.Compose
import ComposeDesk.Request.Customizations
import ComposeDesk.Request.File
import ComposeDesk.Request.Hardening
import ComposeDesk.Request.Repository
import ComposeDesk.Request.System
import ComposeDesk.Request.Upload
import ComposeDesk.Request.User
import ComposeDesk.Response.Blueprint
import ComposeDesk.Response.Cause
import ComposeDesk.Response.Listing
import ComposeDesk.Response.Metadata
import ComposeDesk.Response.Status
import ComposeDesk.Schema
import ComposeDesk.SocketAddress
import ComposeDesk.Store.Basic
import ComposeDesk.Store.Blueprint
import ComposeDesk.Store.Compose
import ComposeDesk.Text.Basic
import ComposeDesk.Text.Case
import ComposeDesk.Text.Hex
import ComposeDesk.Text.Lowercase
import ComposeDesk.Text.Quoted
import ComposeDesk.Text.Sniffed
import ComposeDesk.Text.Unprintable
import ComposeDesk.Text.Utf8
import ComposeDesk.Upload
import ComposeDesk.Url.Basic
import ComposeDesk.Url.Form
import ComposeDesk.Url.Percent
import ComposeDesk.Uuid
import ComposeDesk.Proofs.Api.Counters
import ComposeDesk.Proofs.Copies
import ComposeDesk.Proofs.Metering
import ComposeDesk.Proofs.Text.Utf8
import ComposeDesk.Proofs.Base64
import ComposeDesk.Proofs.Text.Blank
import ComposeDesk.Proofs.Json.Written
import ComposeDesk.Proofs.Identity
import ComposeDesk.Proofs.Decimal
import ComposeDesk.Proofs.Url.Form
import ComposeDesk.Proofs.Api.Addresses
import ComposeDesk.Proofs.Api.Listings
import ComposeDesk.Proofs.Api.Linked
import ComposeDesk.Proofs.Api.Links
import ComposeDesk.Proofs.Repositories.Ordered
import ComposeDesk.Proofs.Repositories.Pinning
import ComposeDesk.Proofs.Repositories.Complete
import ComposeDesk.Proofs.Repositories.Represented
import ComposeDesk.Proofs.Targets
import ComposeDesk.Proofs.Counterparts
import ComposeDesk.Proofs.Sharing
import ComposeDesk.Proofs.Url.Percent
import ComposeDesk.Proofs.Url.Steps
import ComposeDesk.Proofs.Client.Exchanges
import ComposeDesk.Proofs.Client.Addresses
import ComposeDesk.Proofs.Client.Sources
import ComposeDesk.Proofs.Customized
import ComposeDesk.Proofs.Client.Policy
import ComposeDesk.Proofs.Hardening
import ComposeDesk.Proofs.Sizes
import ComposeDesk.Proofs.Base64.Canonical
import ComposeDesk.Proofs.Files
import ComposeDesk.Proofs.Repositories.Filled
import ComposeDesk.Proofs.Repositories.Addressed
import ComposeDesk.Proofs.Client.Timeline
import ComposeDesk.Proofs.Client.Tokens
import ComposeDesk.Proofs.Client.Runs
import ComposeDesk.Proofs.Client.Expiry
import ComposeDesk.Proofs.Client.Moments
import ComposeDesk.Proofs.Client.Attempts
import ComposeDesk.Proofs.Calendar.Days
import ComposeDesk.Proofs.Calendar.Scanned
import ComposeDesk.Proofs.Calendar.DateForms
import ComposeDesk.Proofs.Calendar.InstantForms
import ComposeDesk.Proofs.Calendar.Instants
import ComposeDesk.Proofs.Snapshot
import ComposeDesk.Proofs.Release
import ComposeDesk.Proofs.Json.Ordered
import ComposeDesk.Proofs.Json.Fields
import ComposeDesk.Proofs.Cause
import ComposeDesk.Proofs.Repositories.Requested
