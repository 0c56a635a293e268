import HttpService.Command.Arguments
import HttpService.Health
import HttpService.Pipeline.Probe
import HttpService.Pipeline.Standard
import HttpService.Router
import HttpService.SetupError
import HttpService.Workspace
/-! # The service

The two routers of the program and how it starts. The public router answers a test page, once open
and once only for administrators; the other one, on a listener of its own, answers the probes and
shows the counters. -/
set_option autoImplicit false

namespace HttpService

/-- What runs once the service has started. -/
structure Service where
  settings : Settings
  api : Router
  debug : Router
  apiAddress : SocketAddress
  debugAddress : SocketAddress

namespace Service

/-- Adds a route, with the path named in the error. -/
def route (router : Router) (path : String) (layers : List Layer) (handler : Handler) :
    Except SetupError Router :=
  (router.add .get path layers handler).mapError (.route path)

/-- The layers that let only administrators pass. -/
def adminLayers (verifier : Verifier) : List Layer :=
  [.authenticate verifier, .authorize .adminOnly]

def apiRouter (verifier : Verifier) : Except SetupError Router := do
  let router ← route { layers := Layer.standard } "/test" [] .liveness
  route router "/test/auth" (adminLayers verifier) .liveness

def debugRouter : Except SetupError Router := do
  let router ← route { layers := [.logger, .errors] } "/healthz" [] .liveness
  let router ← route router "/readyz" [] .readiness
  route router "/debug/metrics" [] .counters

/-- Starts the service: settings, keys, routes and addresses, in this order. -/
def start (workspace : Workspace) (environment : List (String × String))
    (arguments : Arguments) : Except SetupError Service := do
  let settings ← (Settings.load (arguments.config.map workspace.settingsFile) environment).mapError
    .settings
  let keys ← (KeyStore.ofFolder (workspace.list settings.auth.keysFolder)).mapError
    SetupError.ofKeyFault
  let verifier : Verifier :=
    { keys, issuer := some settings.auth.issuer, leeway := settings.auth.leeway }
  let api ← apiRouter verifier
  let debug ← debugRouter
  let debugAddress ← listenOn settings.web.debugHost
  let apiAddress ← listenOn settings.web.apiHost
  return { settings, api, debug, apiAddress, debugAddress }

end Service

end HttpService
