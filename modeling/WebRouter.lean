import WebRouter.App.Client
import WebRouter.App.Registration
import WebRouter.Catalogue
import WebRouter.CommandLine.Report
import WebRouter.Demo
import WebRouter.Main
import WebRouter.Router.Selection
import WebRouter.Proofs.Hooks
import WebRouter.Proofs.QueryRoundTrip
import WebRouter.Proofs.TemplateExpression
import WebRouter.Proofs.Registering
import WebRouter.Proofs.Selecting
import WebRouter.Proofs.Dispatching
import WebRouter.Proofs.Refusals
import WebRouter.Proofs.Registry
import WebRouter.Proofs.TwoCopies
import WebRouter.Proofs.Serving
import WebRouter.Proofs.ClientQuery
import WebRouter.Proofs.RouteReport
import WebRouter.Proofs.Lifespan
import WebRouter.Proofs.Observing
import WebRouter.Proofs.ClearOnOverflow
import WebRouter.Proofs.ConcurrentWriters
import WebRouter.Proofs.Merging
import WebRouter.Proofs.QueryEcho
import WebRouter.Proofs.Wrapping
import WebRouter.Proofs.KeyExpression
import WebRouter.Proofs.StateChain
import WebRouter.Proofs.TargetResolution
import WebRouter.Proofs.BindAddress
import WebRouter.Proofs.Interference
import WebRouter.Proofs.UpdateLoops
