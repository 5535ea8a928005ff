import Stratum.Main
import Stratum.Session
import Stratum.Proofs.Outcome
import Stratum.Proofs.Missing
import Stratum.Proofs.Discovery
import Stratum.Proofs.LocalOpening
import Stratum.Proofs.RemoteOpening
import Stratum.Proofs.Tokens
import Stratum.Proofs.Transport
import Stratum.Proofs.Sight
import Stratum.Proofs.Complaints
import Stratum.Proofs.Replica
import Stratum.Proofs.Paths
import Stratum.Proofs.Walk
import Stratum.Proofs.Enumeration
import Stratum.Proofs.Trails
import Stratum.Proofs.Requests
import Stratum.Proofs.Interruption
import Stratum.Proofs.Keeping
import Stratum.Proofs.Output
import Stratum.Proofs.Schemes
import Stratum.Proofs.Looking
import Stratum.Proofs.Replication
import Stratum.Proofs.Header
import Stratum.Proofs.Findings
import Stratum.Proofs.Statuses
import Stratum.Proofs.Digits
import Stratum.Proofs.Fronts
import Stratum.Proofs.Forms
import Stratum.Proofs.Representable
import Stratum.Proofs.Display
import Stratum.Proofs.Configuration
import Stratum.Proofs.Encoded
import Stratum.Proofs.Authorities
import Stratum.Proofs.Written
import Stratum.Proofs.Addresses
import Stratum.Proofs.Questions
import Stratum.Proofs.Inquiry
import Stratum.Proofs.Unread
import Stratum.Proofs.Contents
import Stratum.Proofs.Decoding
import Stratum.Proofs.LineEnds
import Stratum.Proofs.ByteOrder
import Stratum.Proofs.Listing
import Stratum.Proofs.ReadingOrder
import Stratum.Proofs.Settings
import Stratum.Proofs.Replicated
import Stratum.Proofs.DayCount
import Stratum.Proofs.Civil
import Stratum.Proofs.Words
import Stratum.Proofs.Parts
import Stratum.Proofs.Zones
import Stratum.Proofs.DateCommand
import Stratum.Proofs.Numerals
import Stratum.Proofs.FirstValues
import Stratum.Proofs.Entries
import Stratum.Proofs.Lookups
import Stratum.Proofs.Bases
import Stratum.Proofs.Separators
import Stratum.Proofs.NumberFields
import Stratum.Proofs.Legible
import Stratum.Proofs.JsonSpelling
import Stratum.Proofs.JsonText
import Stratum.Proofs.Records
import Stratum.Proofs.Stored
import Stratum.Proofs.TomlSpelling
import Stratum.Proofs.TomlText
import Stratum.Proofs.JsonMembers
import Stratum.Proofs.Overlay
import Stratum.Proofs.Mending
