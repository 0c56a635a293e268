import HttpService.Service
/-! # Launch

What the program does with its command line: it says something about itself, refuses the command
line, fails to start or serves. -/
set_option autoImplicit false

namespace HttpService

inductive Launch where
  | inform (text : String)
  | refuse (reason : Arguments.Misuse)
  | fail (reason : SetupError)
  | serve (service : Service)

namespace Launch

/-- Follows a command line in a working folder and an environment. -/
def ofCommand (workspace : Workspace) (environment : List (String × String))
    (arguments : List String) : Launch :=
  match Arguments.parse arguments environment with
  | .help => .inform (Arguments.helpText environment)
  | .version => .inform Arguments.versionText
  | .misuse reason => .refuse reason
  | .run arguments =>
      match Service.start workspace environment arguments with
      | .ok service => .serve service
      | .error reason => .fail reason

/-- The status that the program ends with. -/
def exitCode : Launch -> Nat
  | .inform _ | .serve _ => 0
  | .refuse _ => 2
  | .fail _ => 1

end Launch

end HttpService
