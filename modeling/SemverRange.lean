import SemverRange.Main
import SemverRange.Session
import SemverRange.Proofs.Blanks
import SemverRange.Proofs.Decimal
import SemverRange.Proofs.Precedence
import SemverRange.Proofs.LiteralText
import SemverRange.Proofs.LiteralBounds
import SemverRange.Proofs.VersionText
import SemverRange.Proofs.Comparators
import SemverRange.Proofs.SpacedDash
import SemverRange.Proofs.TrailingBlanks
import SemverRange.Proofs.Writings
import SemverRange.Proofs.Groups
import SemverRange.Proofs.Hyphens
import SemverRange.Proofs.Pieces
import SemverRange.Proofs.SpacedSearch
import SemverRange.Proofs.Grammar
import SemverRange.Proofs.Squeezing
import SemverRange.Proofs.Composition
import SemverRange.Proofs.Alternatives
import SemverRange.Proofs.GroupSets
import SemverRange.Proofs.ExactVersion
import SemverRange.Proofs.Outcome
import SemverRange.Proofs.Spellings
import SemverRange.Proofs.Respacing
import SemverRange.Proofs.DashText
import SemverRange.Proofs.DashRanges
import SemverRange.Proofs.BuildMetadata
import SemverRange.Proofs.OpenFields
import SemverRange.Proofs.AnyVersion
import SemverRange.Proofs.Meaning
import SemverRange.Proofs.Equality
import SemverRange.Proofs.PreReleaseGuard
import SemverRange.Proofs.OpenEnds
import SemverRange.Proofs.TotalOrder
import SemverRange.Proofs.ViablePrefix
import SemverRange.Proofs.Transcripts
import SemverRange.Proofs.Sessions
import SemverRange.Proofs.LiteralGrammar
import SemverRange.Proofs.Events
import SemverRange.Proofs.Faults
import SemverRange.Proofs.Reports
