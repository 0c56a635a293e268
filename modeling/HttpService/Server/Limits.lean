import HttpService.Settings
/-! # Server limits

How long the server waits for what, in milliseconds, and how large a body it takes. -/
set_option autoImplicit false

namespace HttpService

structure Limits where
  /-- For the head of a request, and once more for its body. -/
  read : Nat := 5000
  /-- For a response to a request that was read. -/
  write : Nat := 10000
  /-- For the next request on a connection. -/
  idle : Nat := 120000
  /-- For the connections that are open when the server is to stop. -/
  drain : Nat := 20000
  maxBody : Nat := 1048576
deriving DecidableEq, Inhabited

def Settings.limits (settings : Settings) : Limits :=
  { read := settings.web.readTimeout * 1000
    write := settings.web.writeTimeout * 1000
    idle := settings.web.idleTimeout * 1000
    drain := settings.web.shutdownTimeout * 1000
    maxBody := settings.web.maxBodyBytes }

end HttpService
