import CloudApi.Network.Client
import CloudApi.Volume.Client
import CloudApi.Proofs.Endpoint
import CloudApi.Proofs.Pager.Offset
import CloudApi.Proofs.Task.Place
import CloudApi.Proofs.Task.Settle
import CloudApi.Proofs.Http.Attempts
import CloudApi.Proofs.Http.Backoff
import CloudApi.Proofs.Pager.Readers
import CloudApi.Proofs.Pager.Items
import CloudApi.Proofs.Pager.Linked
import CloudApi.Proofs.Pager.Malformed
import CloudApi.Proofs.Resource.Lists
import CloudApi.Proofs.Url.Reference
import CloudApi.Proofs.Volume.Filters
import CloudApi.Proofs.Resource.Create
import CloudApi.Proofs.Resource.Delete
import CloudApi.Proofs.Resource.Place
import CloudApi.Proofs.Network.Token
import CloudApi.Proofs.Task.RoundTrip
import CloudApi.Proofs.Task.Cancel
import CloudApi.Proofs.Timestamp.Field
import CloudApi.Proofs.Timestamp.Instant
import CloudApi.Proofs.Json.ReadBack
import CloudApi.Proofs.Records
import CloudApi.Proofs.Twins
import CloudApi.Proofs.Secrecy
import CloudApi.Proofs.Resource.Validity
import CloudApi.Proofs.Task.Turns
import CloudApi.Proofs.Pager.Lengths
import CloudApi.Proofs.Task.Clock
