import HttpService.Command.Launch
import HttpService.Http.Message
import HttpService.Server.Intake
import Std.Async
/-! # The program

The outer layer: it reads the command line, the environment and the files, listens, and moves bytes
between connections and the library. -/
set_option autoImplicit false

namespace HttpService.Program

open Std.Async

/-! ## Files -/

/-- The file of this name, if it can be read. -/
def readFile (name : String) : IO (List (String × Bytes)) := do
  try return [(name, (← IO.FS.readBinFile name).toList)] catch _ => return []

def readFolder (name : String) : IO Workspace := do
  let folder : IO.FS.DirEntry := ⟨".", name⟩
  let folderPath := folder.path
  try
    let entries ← folderPath.readDir
    let inside (entry : IO.FS.DirEntry) := name ++ "/" ++ entry.fileName
    entries.foldlM
      (fun workspace entry => do
        if (← entry.path.isDir) then
          return { workspace with folders := workspace.folders ++ [inside entry] }
        else return { workspace with files := workspace.files ++ (← readFile (inside entry)) })
      { folders := [name] }
  catch _ => return {}

/-- The files that a start of the program may need. -/
def readWorkspace (environment : List (String × String)) (arguments : List String) :
    IO Workspace := do
  match Arguments.parse arguments environment with
  | .run arguments =>
      let names := arguments.config.toList.flatMap fun name =>
        [name, name ++ Workspace.settingsEnding]
      let files := (← names.mapM readFile).flatten
      let workspace : Workspace := { files }
      match Settings.load (arguments.config.map workspace.settingsFile) environment with
      | .error _ => return workspace
      | .ok settings =>
          let keys ← readFolder settings.auth.keysFolder
          return { files := files ++ keys.files, folders := keys.folders }
  | _ => return {}

/-! ## Addresses and time -/

def toNetwork : SocketAddress -> Std.Net.SocketAddress
  | .v4 octets port =>
      let octet (place : Nat) := UInt8.ofNat (octets.getD place 0)
      .v4 ⟨.ofParts (octet 0) (octet 1) (octet 2) (octet 3), UInt16.ofNat port⟩
  | .v6 groups _ port =>
      let segments := Vector.ofFn fun place : Fin 8 => UInt16.ofNat (groups.getD place 0)
      .v6 ⟨⟨segments⟩, UInt16.ofNat port⟩

def ofNetwork : Std.Net.SocketAddress -> SocketAddress
  | .v4 address => .v4 (address.addr.octets.toList.map UInt8.toNat) address.port.toNat
  | .v6 address => .v6 (address.addr.segments.toList.map UInt16.toNat) 0 address.port.toNat

def clock : IO Moment := do
  let nanoseconds := (← Std.Time.Timestamp.now).toNanosecondsSinceUnixEpoch.val.toNat
  return ⟨nanoseconds / 1000000000, nanoseconds % 1000000000⟩

/-! ## Connections -/

structure Shared where
  world : Std.Mutex World
  /-- Cancelled once the program is to stop. -/
  draining : Std.CancellationContext
  connections : Std.Mutex Nat
  stop : IO.Promise Signal

structure Listener where
  shared : Shared
  router : Router
  limits : Limits

inductive Received where
  | bytes (bytes : Bytes)
  | closed
  | late
  | draining

/-- Waits for bytes; while a request is read, draining does not matter. -/
def receive (listener : Listener) (client : TCP.Socket.Client) (limit : Nat) (idle : Bool) :
    Async Received := do
  let bytes : Selectable Received := .case (client.recvSelector 65536) fun found =>
    pure (found.elim .closed fun bytes => .bytes bytes.toList)
  let timer : Selectable Received :=
    .case (← Selector.sleep (.ofNat limit)) fun _ => pure .late
  let drain : Selectable Received :=
    .case listener.shared.draining.doneSelector fun _ => pure .draining
  Selectable.one (if idle then #[bytes, timer, drain] else #[bytes, timer])

/-- Reads a head. Nothing is returned when the connection is to be closed without an answer. -/
partial def readHead (listener : Listener) (client : TCP.Socket.Client) (arrived : Bytes) :
    Async (Option (Except HeadFault (MessageHead × Bytes))) := do
  match MessageHead.read arrived with
  | .ok found => return some (.ok found)
  | .error (.fault reason) => return some (.error reason)
  | .error .more =>
      let limit := min listener.limits.read listener.limits.idle
      match (← receive listener client limit arrived.isEmpty) with
      | .bytes bytes => readHead listener client (arrived ++ bytes)
      | _ => return none

/-- What is reported of a body that ends too early or is not well-formed. -/
def bodyFault : String := "error reading a body from connection"

/-- Reads a body as what arrives and when. Stops early at what settles the answer. -/
partial def readBody (listener : Listener) (client : TCP.Socket.Client) (since total : Nat)
    (state : BodyState) (arrived : Bytes) (arrivals : List Arrival) :
    Async (List Arrival × Option Bytes) := do
  let moment := (← IO.monoMsNow) - since
  let ending (event : BodyEvent) : List Arrival := (⟨moment, event⟩ :: arrivals).reverse
  match state.next arrived with
  | .finish rest => return (ending .finish, some rest)
  | .broken => return (ending (.failure bodyFault), none)
  | .frame bytes state rest =>
      let total := total + bytes.length
      if listener.limits.maxBody < total then return (ending (.frame bytes), none)
      else readBody listener client since total state rest (⟨moment, .frame bytes⟩ :: arrivals)
  | .more =>
      match (← receive listener client (listener.limits.read - moment) false) with
      | .bytes bytes => readBody listener client since total state (arrived ++ bytes) arrivals
      | .closed => return (ending (.failure bodyFault), none)
      | _ => return (arrivals.reverse, none)

/-- Answers a request, prints what it logs and asks for a shutdown if it wants one. -/
def answer (listener : Listener) (peer : SocketAddress) (head : Request)
    (arrivals : List Arrival) : Async Intake.Answer := do
  let now ← clock
  let (answer, log, pending) ← listener.shared.world.atomically do
    let world := { (← get) with now, log := [], notes := [] }
    let (answer, world) := Intake.answer listener.limits listener.router peer head arrivals world
    set world
    return (answer, world.log, world.channel.pending)
  for entry in log do IO.println entry.render
  if let some signal := pending then listener.shared.stop.resolve signal
  return answer

def send (client : TCP.Socket.Client) (response : Response) (version : Version)
    (withBody persists : Bool) : Async Unit := do
  let date := ((Timestamp.ofSeconds? (← clock).seconds).getD default).dateField
  client.send ⟨(response.encode version withBody persists date).toArray⟩

/-- Answers the requests of a connection one after the other. -/
partial def converse (listener : Listener) (client : TCP.Socket.Client) (peer : SocketAddress)
    (arrived : Bytes) : Async Unit := do
  match (← readHead listener client arrived) with
  | none => return
  | some (.error reason) => send client (.bare reason.status) .current true false
  | some (.ok (head, rest)) =>
      if head.expectsLeave then client.send ⟨Response.leave.toArray⟩
      let (arrivals, rest) ←
        readBody listener client (← IO.monoMsNow) 0 head.framing.start rest []
      match (← answer listener peer head.request arrivals) with
      | .panicked _ => return
      | .response response =>
          let draining ← listener.shared.draining.isCancelled
          let persists := head.persists && rest.isSome && !draining
          let withBody := head.request.method.name != "HEAD"
          send client response head.version withBody persists
          if persists then converse listener client peer (rest.getD [])

def serveConnection (listener : Listener) (client : TCP.Socket.Client) : Async Unit := do
  listener.shared.connections.atomically (modify (· + 1))
  try
    converse listener client (ofNetwork (← client.getPeerName)) []
    client.shutdown
  catch _ => pure ()
  listener.shared.connections.atomically (modify (· - 1))

/-- Takes connections until the program is to stop. -/
partial def accept (listener : Listener) (socket : TCP.Socket.Server) : Async Unit := do
  let next : Option TCP.Socket.Client ← Selectable.one #[
    .case listener.shared.draining.doneSelector fun _ => pure none,
    .case socket.acceptSelector fun client => pure (some client)]
  match next with
  | none => return
  | some client =>
      background (serveConnection listener client)
      accept listener socket

def listen (address : SocketAddress) : IO TCP.Socket.Server := do
  let socket ← TCP.Socket.Server.mk
  socket.bind (toNetwork address)
  socket.listen 1024
  IO.println ("INFO ward listening addr=" ++ (ofNetwork (← socket.getSockName)).display)
  return socket

/-! ## Stopping -/

/-- Asks for a shutdown when the system sends a signal. -/
def forward (shared : Shared) (system : Std.Async.Signal) (signal : Signal) : Async Unit := do
  let waiter ← Std.Async.Signal.Waiter.mk system false
  let _ ← await (← waiter.wait)
  shared.stop.resolve signal

/-- Waits for the connections to end, for at most so many milliseconds. -/
partial def drain (shared : Shared) (left : Nat) : Async Unit := do
  let count ← shared.connections.atomically get
  if 0 < count && 0 < left then do
    sleep (.ofNat (min left 10))
    drain shared (left - 10)

/-- Runs a started service until it is told to stop. -/
def run (service : Service) : Async Unit := do
  let shared : Shared :=
    ⟨← Std.Mutex.new {}, ← Std.CancellationContext.new, ← Std.Mutex.new 0, ← IO.Promise.new⟩
  let limits := service.settings.limits
  let debug ← listen service.debugAddress
  background (accept ⟨shared, service.debug, {}⟩ debug)
  let api ← listen service.apiAddress
  background (accept ⟨shared, service.api, limits⟩ api)
  background (forward shared .sigterm .terminate)
  background (forward shared .sigint .interrupt)
  let signal ← Async.ofPurePromise (pure shared.stop)
  IO.println ("INFO shutdown started, draining connections signal=" ++ signal.display)
  shared.draining.cancel .shutdown
  drain shared limits.drain
  IO.println "INFO shutdown complete"

end HttpService.Program

open HttpService in
def main (arguments : List String) : IO UInt32 := do
  let environment := (← Std.Internal.UV.System.osEnviron).toList
  let workspace ← Program.readWorkspace environment arguments
  let launch := Launch.ofCommand workspace environment arguments
  let exitCode := UInt32.ofNat launch.exitCode
  match launch with
  | .inform text => do
      IO.print text
      return exitCode
  | .refuse reason => do
      IO.eprintln reason.report
      return exitCode
  | .fail reason => do
      IO.println ("ERROR startup error=" ++ reason.message)
      return exitCode
  | .serve service =>
      try
        (Program.run service).block
        return exitCode
      catch problem => do
        IO.println ("ERROR startup error=io: " ++ toString problem)
        return 1
