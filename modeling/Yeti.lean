import Yeti.Framework.System
import Yeti.Resources.Resource
import Yeti.Resources.Sequences
import Yeti.Resources.Connection
import Yeti.Resources.Control
import Yeti.Resources.Accounting
import Yeti.Resources.Phases
import Yeti.Resources.Replies
import Yeti.Resources.Conservation
import Yeti.Framework.Segments
import Yeti.Headers.SkipHeader
import Yeti.Resources.Readiness
import Yeti.Headers.Filter
import Yeti.Headers.Reading
import Yeti.Headers.FullNames
import Yeti.Call.CallCtx
import Yeti.Certs.Trusted
import Yeti.Call.AorResolving
import Yeti.Call.Dialling
import Yeti.Call.Expansion
import Yeti.Call.Lifetime
import Yeti.Certs.Cache
import Yeti.Certs.Notification
import Yeti.Config.Mappings
import Yeti.Config.Reloading
import Yeti.Call.Numbering
import Yeti.Call.Causes
import Yeti.Http.Sequencer
import Yeti.Http.Sequencing
import Yeti.Redis.Answering
import Yeti.Call.CallLeg
import Yeti.Call.Forking
import Yeti.Call.Refusal
import Yeti.Call.StaleReplies
import Yeti.Call.Radius
import Yeti.Call.Stopping
import Yeti.Resources.Serialized
import Yeti.Resources.ErrorPath
import Yeti.Resources.Progress
import Yeti.Certs.Content
import Yeti.Sdp.Answer
import Yeti.Sdp.Offer
import Yeti.Sdp.OfferOutcome
import Yeti.Args.Conversion
import Yeti.Args.RoundTrip
import Yeti.Registrar.Bindings
import Yeti.Registrar.Registration
import Yeti.Registrar.Lookup
import Yeti.Registrar.KeepAlive
import Yeti.Registrar.Mirroring
import Yeti.Config.Answers
import Yeti.Config.Atomicity
import Yeti.Call.Hold
import Yeti.Headers.Exactness
import Yeti.Headers.Slices
import Yeti.Resources.Parsing
import Yeti.Resources.Failover
import Yeti.Resources.Wire
import Yeti.Config.Registrations
import Yeti.Args.Decoding
import Yeti.Params.Replacer
import Yeti.Params.Scan
import Yeti.Params.Truncation
import Yeti.Params.Random
import Yeti.Params.Tokens
import Yeti.Params.Composition
import Yeti.Call.FailedResource
import Yeti.Call.Timing
import Yeti.Sdp.Version
import Yeti.Sdp.Payloads
import Yeti.Framework.Numbering
import Yeti.Sdp.Numbers
import Yeti.Sdp.Connections
import Yeti.Sdp.FilterOffer
import Yeti.Framework.Joining
import Yeti.Headers.UsedHeaderField
import Yeti.Headers.AppendHeaders
import Yeti.Framework.Occurrences
import Yeti.Params.Placeholders
import Yeti.Config.Refusing
import Yeti.Framework.Listings
import Yeti.Hash.Cdr
import Yeti.Hash.Snapshot
import Yeti.Hash.CallListing
import Yeti.Hash.SnapshotIds
import Yeti.Framework.Truncation
import Yeti.Hash.Rules
import Yeti.Hash.RuleParsing
import Yeti.Framework.Assignments
import Yeti.Profile.Fields
import Yeti.Profile.Reading
import Yeti.Profile.Columns
import Yeti.Profile.Independence
import Yeti.Framework.Buckets
import Yeti.Rate.RateLimit
import Yeti.Framework.Resp
import Yeti.Registrar.AorRequests
import Yeti.Resources.StateQuery
import Yeti.Resources.StateReplies
import Yeti.Resources.StateResult
import Yeti.Call.Holding
import Yeti.Call.Owners
import Yeti.Call.Hunting
import Yeti.Call.Billing
import Yeti.Call.Connecting
import Yeti.Sdp.Answering
import Yeti.Sdp.Exchange
import Yeti.Certs.Awaiting
import Yeti.Certs.Answered
import Yeti.Certs.Verified
