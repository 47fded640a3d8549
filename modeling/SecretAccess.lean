import SecretAccess.Audit.Record
import SecretAccess.Journal.Report
import SecretAccess.Proofs.Service.SingleUse
import SecretAccess.Service.Basic
import SecretAccess.Proofs.Emergency.Replay
import SecretAccess.Proofs.Emergency.FirstRule
import SecretAccess.Proofs.Permission.Reading
import SecretAccess.Proofs.Resource.Listing
import SecretAccess.Proofs.Resource.Naming
import SecretAccess.Proofs.Resource.Rebuilding
import SecretAccess.Proofs.Service.OrdinaryAccess
import SecretAccess.Proofs.Numeric.Overflow
import SecretAccess.Proofs.Service.Answers
import SecretAccess.Proofs.Service.GrantAlone
import SecretAccess.Proofs.Service.Batches
import SecretAccess.Proofs.Identity.Sequences
import SecretAccess.Proofs.Numeric.Numerals
import SecretAccess.Proofs.Service.MintedGrants
import SecretAccess.Proofs.Service.Exits
import SecretAccess.Proofs.Service.CategoryCover
import SecretAccess.Proofs.Service.CategorySpelling
import SecretAccess.Proofs.Service.Commuting
import SecretAccess.Proofs.Emergency.Redaction
import SecretAccess.Proofs.Emergency.Refinement
import SecretAccess.Proofs.Audit.Trail
import SecretAccess.Proofs.Audit.Lines
import SecretAccess.Proofs.Service.Start
import SecretAccess.Proofs.Settings.Variables
