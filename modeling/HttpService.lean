import HttpService.Address
import HttpService.Auth.Claims
import HttpService.Auth.KeyStore
import HttpService.Auth.Owner
import HttpService.Auth.Registered
import HttpService.Auth.Rule
import HttpService.Auth.Signer
import HttpService.Auth.TokenHeader
import HttpService.Auth.Verifier
import HttpService.Bytes
import HttpService.Command.Arguments
import HttpService.Command.Launch
import HttpService.Counters
import HttpService.Crypto.Armour
import HttpService.Crypto.Digest
import HttpService.Crypto.Encoded
import HttpService.Crypto.SigningKey
import HttpService.Encoding.Base64
import HttpService.Exchange
import HttpService.Failure
import HttpService.Failure.Cause
import HttpService.Failure.IoKind
import HttpService.Health
import HttpService.Http.Header
import HttpService.Http.Message
import HttpService.Http.Request
import HttpService.Http.Response
import HttpService.Http.Status
import HttpService.Http.Uri
import HttpService.Json.Printer
import HttpService.Json.Reader
import HttpService.Json.Typed
import HttpService.Json.Value
import HttpService.LogEntry
import HttpService.Main
import HttpService.Number.Binary64
import HttpService.Number.Power
import HttpService.Number.Shortest
import HttpService.Pipeline.Probe
import HttpService.Pipeline.Standard
import HttpService.Pipeline.Task
import HttpService.Pipeline.World
import HttpService.Proofs.Accounting
import HttpService.Proofs.Answers
import HttpService.Proofs.AuthStages
import HttpService.Proofs.Base64Coding
import HttpService.Proofs.BodyFrames
import HttpService.Proofs.CallOrder
import HttpService.Proofs.Chronicles
import HttpService.Proofs.ClaimsReading
import HttpService.Proofs.ClaimsTexts
import HttpService.Proofs.Delivery
import HttpService.Proofs.ErrorBodies
import HttpService.Proofs.Escalation
import HttpService.Proofs.Firewall
import HttpService.Proofs.Forgetting
import HttpService.Proofs.GracefulDrain
import HttpService.Proofs.HandleRuns
import HttpService.Proofs.Histories
import HttpService.Proofs.IdleWaits
import HttpService.Proofs.Indifference
import HttpService.Proofs.KeyFolders
import HttpService.Proofs.KeyHistories
import HttpService.Proofs.LayeredSettings
import HttpService.Proofs.Lineage
import HttpService.Proofs.LiteralRoutes
import HttpService.Proofs.Mediation
import HttpService.Proofs.Narration
import HttpService.Proofs.NumberReading
import HttpService.Proofs.Observation
import HttpService.Proofs.Observers
import HttpService.Proofs.PanicRecovery
import HttpService.Proofs.PayloadAgreement
import HttpService.Proofs.Permissions
import HttpService.Proofs.PublicSurface
import HttpService.Proofs.ReaderRuns
import HttpService.Proofs.RegisteredReading
import HttpService.Proofs.Registration
import HttpService.Proofs.Reports
import HttpService.Proofs.RequestRecords
import HttpService.Proofs.RouteTrees
import HttpService.Proofs.Scanning
import HttpService.Proofs.ServerMoves
import HttpService.Proofs.SettingFields
import HttpService.Proofs.SettingTrees
import HttpService.Proofs.SignalDelivery
import HttpService.Proofs.SignedTokens
import HttpService.Proofs.Skipping
import HttpService.Proofs.Spans
import HttpService.Proofs.StandardLayers
import HttpService.Proofs.Straying
import HttpService.Proofs.TaskRuns
import HttpService.Proofs.TextReading
import HttpService.Proofs.TokenSoundness
import HttpService.Proofs.TrafficRuns
import HttpService.Proofs.Transparency
import HttpService.Proofs.WholeObjects
import HttpService.Proofs.WholeTexts
import HttpService.Proofs.Withholding
import HttpService.Proofs.WrappedCauses
import HttpService.Proofs.WrittenClaims
import HttpService.Proofs.WrittenNumbers
import HttpService.Proofs.WrittenOwners
import HttpService.Proofs.WrittenText
import HttpService.Proofs.WrittenValues
import HttpService.Route.Pattern
import HttpService.Route.Tree
import HttpService.Router
import HttpService.Server.AcceptLoop
import HttpService.Server.Activity
import HttpService.Server.Intake
import HttpService.Server.Limits
import HttpService.Service
import HttpService.Settings
import HttpService.Settings.Value
import HttpService.SetupError
import HttpService.Shutdown
import HttpService.Shutdown.Ends
import HttpService.Text.Dictionary
import HttpService.Text.Quoted
import HttpService.Text.Shown
import HttpService.Time.Timestamp
import HttpService.Toml.Reader
import HttpService.Toml.Value
import HttpService.Traffic
import HttpService.Workspace
