import HttpService.Address
import HttpService.Auth.KeyStore
import HttpService.Failure.IoKind
import HttpService.Route.Pattern
import HttpService.Settings.Value
/-! # Setup errors

Failures outside of any request: settings, keys, addresses and routes. They never reach a client. -/
set_option autoImplicit false

namespace HttpService

/-- Why the service cannot start. -/
inductive SetupError where
  /-- A numbered error of the operating system. -/
  | system (code : Int)
  | settings (reason : SettingsError)
  /-- The text is no address to listen on. -/
  | address (text : String)
  | route (path : String) (reason : RouteError)
  /-- The text stored under this identifier is no key. -/
  | key (kid : String)
deriving DecidableEq

namespace SetupError

def message : SetupError -> String
  | .system code => "io: " ++ IoKind.systemMessage code
  | .settings reason => "config: " ++ reason.message
  | .address text => "invalid address `" ++ text ++ "`: " ++ SocketAddress.syntaxMessage
  | .route path reason => "invalid route `" ++ path ++ "`: " ++ reason.message
  | .key kid => "key `" ++ kid ++ "`: " ++ KeyMaterial.unreadable

def ofKeyFault : KeyFault -> SetupError
  | .unreadable kid => .key kid
  | .system code => .system code

end SetupError

def listenOn (text : String) : Except SetupError SocketAddress :=
  match SocketAddress.parse? text with
  | some address => pure address
  | none => throw (.address text)

end HttpService
