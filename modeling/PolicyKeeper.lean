import PolicyKeeper.Main
import PolicyKeeper.Proofs.CheckAtomicity
import PolicyKeeper.Proofs.CheckInterruptions
import PolicyKeeper.Proofs.Synchrony
import PolicyKeeper.Proofs.RoundedSums
import PolicyKeeper.Proofs.PendingChanges
import PolicyKeeper.Proofs.RestedFiles
import PolicyKeeper.Proofs.DocumentGrammar
import PolicyKeeper.Proofs.StoppedKeepers
import PolicyKeeper.Proofs.FailureStreaks
import PolicyKeeper.Proofs.FileNames
import PolicyKeeper.Proofs.IncludeChains
import PolicyKeeper.Proofs.IncludeSubstitution
import PolicyKeeper.Proofs.SpelledParts
import PolicyKeeper.Proofs.WrittenMarkup
import PolicyKeeper.Proofs.MarkupRoundTrip
import PolicyKeeper.Proofs.WrittenDocuments
import PolicyKeeper.Proofs.WrittenPolicies
import PolicyKeeper.Proofs.WaysToCheck
import PolicyKeeper.Proofs.LeftOutDirectives
import PolicyKeeper.Proofs.PercentRoundTrip
import PolicyKeeper.Proofs.PolicyRequests
import PolicyKeeper.Proofs.OutlineFaults
import PolicyKeeper.Proofs.SettingValues
import PolicyKeeper.Proofs.SettingsInterruptions
import PolicyKeeper.Proofs.ReportedViolations
import PolicyKeeper.Proofs.StopsWithinChecks
import PolicyKeeper.Proofs.ReadOnlyRequests
import PolicyKeeper.Proofs.DocumentMarks
import PolicyKeeper.Proofs.FirstFaults
import PolicyKeeper.Proofs.SpacedChecks
import PolicyKeeper.Proofs.SurfaceForms
import PolicyKeeper.Proofs.PositiveIntervals
import PolicyKeeper.Proofs.MovedDocuments
import PolicyKeeper.Proofs.OutlineEquality
import PolicyKeeper.Proofs.NestedSettings
import PolicyKeeper.Proofs.SettingSources
