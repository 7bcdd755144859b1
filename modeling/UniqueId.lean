import UniqueId.Clock.Shared
import UniqueId.Clock.Timeline
import UniqueId.Generator
import UniqueId.NameBased
import UniqueId.Text.Utf8
import UniqueId.Uuid.Interchange
import UniqueId.Uuid.Namespace
import UniqueId.Uuid.Order
import UniqueId.Proofs.Clock.Passes
import UniqueId.Proofs.Clock.Succession
import UniqueId.Proofs.Clock.Interleaving
import UniqueId.Proofs.Word.Field
import UniqueId.Proofs.Layout.Spans
import UniqueId.Proofs.TimeBased.Fields
import UniqueId.Proofs.Clock.Minting
import UniqueId.Proofs.Generator.Calls
import UniqueId.Proofs.Generator.OneIdentity
import UniqueId.Proofs.Uuid.Grammar
import UniqueId.Proofs.TimeBased.Inverse
import UniqueId.Proofs.Uuid.Kinds
import UniqueId.Proofs.Uuid.Ordering
import UniqueId.Proofs.Uuid.WithinKind
import UniqueId.Proofs.Uuid.RoundTrip
import UniqueId.Proofs.Uuid.TextOrder
import UniqueId.Proofs.Uuid.Agreement
import UniqueId.Proofs.TimeBased.FieldOrder
import UniqueId.Proofs.Clock.Readings
import UniqueId.Proofs.Clock.Drift
import UniqueId.Proofs.Node.Multicast
import UniqueId.Proofs.Uuid.Tokens
import UniqueId.Proofs.Clock.Steady
import UniqueId.Proofs.Clock.Rollback
import UniqueId.Proofs.Clock.Stretches
import UniqueId.Proofs.Clock.Reachable
import UniqueId.Proofs.Clock.Waiting
import UniqueId.Proofs.Clock.OneCaller
import UniqueId.Proofs.Clock.Limits
import UniqueId.Proofs.Words.Positional
import UniqueId.Proofs.Words.Stamps
import UniqueId.Proofs.NameBased.Digests
import UniqueId.Proofs.Node.Collection
import UniqueId.Proofs.Node.Fingerprint
import UniqueId.Proofs.RandomBased.Projection
import UniqueId.Proofs.RandomBased.Sequential
import UniqueId.Proofs.Uuid.Buffer
import UniqueId.Proofs.TimeBased.Parts
import UniqueId.Proofs.TimeBased.UnixMillis
import UniqueId.Proofs.Uuid.Views
