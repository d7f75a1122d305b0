import BuildProfiles.Main
import BuildProfiles.Session
import BuildProfiles.Proofs.Consultation
import BuildProfiles.Proofs.Judgement
import BuildProfiles.Proofs.ActiveProfiles
import BuildProfiles.Proofs.Containment
import BuildProfiles.Proofs.Standard
import BuildProfiles.Proofs.Composition
import BuildProfiles.Proofs.Overrides
import BuildProfiles.Proofs.Sessions
import BuildProfiles.Proofs.Faults
import BuildProfiles.Proofs.VersionOrder
import BuildProfiles.Proofs.Requirements
import BuildProfiles.Proofs.Interval
import BuildProfiles.Proofs.Expansion
import BuildProfiles.Proofs.Fallible
import BuildProfiles.Proofs.Violations
import BuildProfiles.Proofs.Declarations
import BuildProfiles.Proofs.Reading
import BuildProfiles.Proofs.Loading
import BuildProfiles.Proofs.Writing
import BuildProfiles.Proofs.CommandWords
import BuildProfiles.Proofs.Selections
import BuildProfiles.Proofs.CommandRun
import BuildProfiles.Proofs.FailedSteps
import BuildProfiles.Proofs.Descriptions
import BuildProfiles.Proofs.SingleBound
import BuildProfiles.Proofs.VersionPreorder
import BuildProfiles.Proofs.Ranges
import BuildProfiles.Proofs.Passes
import BuildProfiles.Proofs.Lookup
import BuildProfiles.Proofs.Negation
import BuildProfiles.Proofs.WrittenSelections
import BuildProfiles.Proofs.DetachedValues
import BuildProfiles.Proofs.Protocol
import BuildProfiles.Proofs.WrittenProperties
import BuildProfiles.Proofs.PathOrder
import BuildProfiles.Proofs.Environment
import BuildProfiles.Proofs.Relevance
import BuildProfiles.Proofs.Halves
import BuildProfiles.Proofs.Isolation
import BuildProfiles.Proofs.Remembering
