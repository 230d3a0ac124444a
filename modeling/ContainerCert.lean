import ContainerCert.Main
import ContainerCert.Program
import ContainerCert.Proofs.Actions
import ContainerCert.Proofs.Requests
import ContainerCert.Proofs.RunCalls
import ContainerCert.Proofs.SettingsSources
import ContainerCert.Proofs.SubmissionCredentials
import ContainerCert.Schemas
import ContainerCert.Proofs.EngineRuns
import ContainerCert.Proofs.ServiceRequests
import ContainerCert.Proofs.ProjectRequest
import ContainerCert.Proofs.JsonReading
import ContainerCert.Proofs.ReportDocuments
import ContainerCert.Proofs.FileTrees
import ContainerCert.Proofs.SubmittedResults
import ContainerCert.Proofs.Openings
import ContainerCert.Proofs.IncludeRoutes
import ContainerCert.Proofs.SharedIncludes
import ContainerCert.Proofs.IncludePaths
import ContainerCert.Proofs.LayeredIncludes
import ContainerCert.Proofs.OrderedRules
import ContainerCert.Proofs.ReferenceDisplay
import ContainerCert.Proofs.ExitCodes
import ContainerCert.Proofs.SettingsHistory
import ContainerCert.Proofs.ArgumentParts
import ContainerCert.Proofs.TypedValues
import ContainerCert.Proofs.SubmissionIntent
import ContainerCert.Proofs.Base64
import ContainerCert.Proofs.SubmissionRequests
import ContainerCert.Proofs.Cancellation
import ContainerCert.Proofs.DirectoryPaths
import ContainerCert.Proofs.ArtifactFiles
import ContainerCert.Proofs.RunFiles
import ContainerCert.Proofs.TokenSecrecy
import ContainerCert.Proofs.Expansion
import ContainerCert.Proofs.DocumentRoundTrips
import ContainerCert.Proofs.PublishedSchemas
import ContainerCert.Proofs.XmlGrammar
import ContainerCert.Proofs.XmlReading
import ContainerCert.Proofs.JunitDocuments
import ContainerCert.Proofs.JunitReading
import ContainerCert.Proofs.JunitCharacters
import ContainerCert.Proofs.TableRows
import ContainerCert.Proofs.SortedChecks
import ContainerCert.Proofs.IncludeRuns
import ContainerCert.Proofs.OverlaidFiles
import ContainerCert.Proofs.SettledIdentifiers
import ContainerCert.Proofs.EngineOptions
import ContainerCert.Proofs.SummaryTexts
import ContainerCert.Proofs.JunitTimes
import ContainerCert.Proofs.MeasuredTimes
import ContainerCert.Proofs.ReferenceDocuments
import ContainerCert.Proofs.SumsOfTimes
import ContainerCert.Proofs.MaskedSummaries
