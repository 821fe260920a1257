import TelemetryBindings.CommandLine.Arguments
import TelemetryBindings.CommandLine.Disk
import TelemetryBindings.Main
import TelemetryBindings.Proofs.Agreement
import TelemetryBindings.Proofs.Arrangement
import TelemetryBindings.Proofs.ClosedDocuments
import TelemetryBindings.Proofs.Collecting
import TelemetryBindings.Proofs.DatumTrees
import TelemetryBindings.Proofs.DistinctNames
import TelemetryBindings.Proofs.ExpirySettings
import TelemetryBindings.Proofs.ExpiryTexts
import TelemetryBindings.Proofs.FreeText
import TelemetryBindings.Proofs.Insertions
import TelemetryBindings.Proofs.KeptOrReported
import TelemetryBindings.Proofs.KeyOrder
import TelemetryBindings.Proofs.Keywords
import TelemetryBindings.Proofs.KotlinImports
import TelemetryBindings.Proofs.Leniency
import TelemetryBindings.Proofs.Modularity
import TelemetryBindings.Proofs.NameGrammars
import TelemetryBindings.Proofs.NamespaceEffects
import TelemetryBindings.Proofs.NestedCalls
import TelemetryBindings.Proofs.NestedNames
import TelemetryBindings.Proofs.PolicyRules
import TelemetryBindings.Proofs.Registrations
import TelemetryBindings.Proofs.RenderedLines
import TelemetryBindings.Proofs.RepeatedKeys
import TelemetryBindings.Proofs.ReservedUnits
import TelemetryBindings.Proofs.Translating
import TelemetryBindings.Proofs.WellFormed
import TelemetryBindings.Proofs.WrittenNames
import TelemetryBindings.Proofs.WrongKinds
