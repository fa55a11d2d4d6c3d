import FfiBindings.Main
import FfiBindings.Proofs.Trimming
import FfiBindings.Proofs.Lookback
import FfiBindings.Proofs.MarkerFate
import FfiBindings.Proofs.Pass
import FfiBindings.Proofs.Extraction
import FfiBindings.Proofs.Cutting
import FfiBindings.Proofs.Nesting
import FfiBindings.Proofs.DeclarationForm
import FfiBindings.Proofs.SharedTypes
import FfiBindings.Proofs.Printing
import FfiBindings.Proofs.RoundTrip
import FfiBindings.Proofs.BlockComments
import FfiBindings.Proofs.Insulation
import FfiBindings.Proofs.Descriptors
import FfiBindings.Proofs.CaseConversion
import FfiBindings.Proofs.MethodNames
import FfiBindings.Proofs.Wrappers
import FfiBindings.Proofs.Attribution
import FfiBindings.Proofs.ParameterNames
import FfiBindings.Proofs.Encoding
import FfiBindings.Proofs.PathSteps
import FfiBindings.Proofs.Regeneration
import FfiBindings.Proofs.Making
import FfiBindings.Proofs.PlainScalars
import FfiBindings.Proofs.SingleQuotes
import FfiBindings.Proofs.Concatenation
import FfiBindings.Proofs.Templates
import FfiBindings.Proofs.Fields
import FfiBindings.Proofs.Derivation
import FfiBindings.Proofs.ProjectFile
import FfiBindings.Proofs.Saving
import FfiBindings.Proofs.FileNames
import FfiBindings.Proofs.Starting
import FfiBindings.Proofs.Artifacts
import FfiBindings.Proofs.OuterCommas
import FfiBindings.Proofs.TextPaths
import FfiBindings.Proofs.BuildArguments
import FfiBindings.Proofs.NamedToolchain
import FfiBindings.Proofs.Consent
import FfiBindings.Proofs.Layout
import FfiBindings.Proofs.WellFormed
import FfiBindings.Proofs.ProjectNames
import FfiBindings.Proofs.ServiceNames
import FfiBindings.Proofs.StableForms
import FfiBindings.Proofs.Capitals
import FfiBindings.Proofs.BuildReports
import FfiBindings.Proofs.LogContent
import FfiBindings.Proofs.Notices
import FfiBindings.Proofs.ClosingParenthesis
