import Tagging.Http.Stream
import Tagging.Main
import Tagging.Proofs.Access.Containment
import Tagging.Proofs.Encoding
import Tagging.Proofs.Audit.History
import Tagging.Proofs.Audit.Telling
import Tagging.Proofs.Catalog.Confined
import Tagging.Proofs.Catalog.Listing
import Tagging.Proofs.Catalog.Lookup
import Tagging.Proofs.Catalog.Presence
import Tagging.Proofs.Catalog.Validity
import Tagging.Proofs.Http.Hiding
import Tagging.Proofs.Json.Reading
import Tagging.Proofs.Json.Text
import Tagging.Proofs.Service.Accounting
import Tagging.Proofs.Service.Alike
import Tagging.Proofs.Service.AlikeChange
import Tagging.Proofs.Service.Transaction
import Tagging.Proofs.Service.Operation
import Tagging.Proofs.Service.Escalation
import Tagging.Proofs.Service.Hiding
import Tagging.Proofs.Service.Integrity
import Tagging.Proofs.Service.Lifetime
import Tagging.Proofs.Service.Mediation
import Tagging.Proofs.Service.Persistence
import Tagging.Proofs.Service.Run
import Tagging.Proofs.Text.Digits
import Tagging.Proofs.Time.Calendar
import Tagging.Proofs.Time.Timestamp
import Tagging.Proofs.Uuid
import Tagging.Proofs.Access.GrantSet
import Tagging.Proofs.Catalog.Refinement
import Tagging.Proofs.Http.Transaction
import Tagging.Proofs.Catalog.Amendment
import Tagging.Proofs.Service.Commuting
import Tagging.Proofs.Http.Paging
import Tagging.Proofs.Service.Installation
import Tagging.Proofs.Service.Watching
import Tagging.Proofs.Service.Details
import Tagging.Proofs.Audit.Recording
import Tagging.Proofs.Text.Blank
import Tagging.Proofs.Catalog.Fields
import Tagging.Proofs.Catalog.Checking
import Tagging.Proofs.Catalog.Patch
import Tagging.Proofs.Service.Frame
import Tagging.Proofs.Service.Tidiness
import Tagging.Proofs.Text.Split
import Tagging.Proofs.Access.Notation
import Tagging.Proofs.Access.Canonical
import Tagging.Proofs.Http.Identity
import Tagging.Proofs.Http.Intake
import Tagging.Proofs.Statistic.Attachments
import Tagging.Proofs.Statistic.Tally
import Tagging.Proofs.Statistic.Balance
import Tagging.Proofs.Service.Configuration
import Tagging.Proofs.Json.Members
import Tagging.Proofs.Token.Fields
import Tagging.Proofs.Token.Verification
