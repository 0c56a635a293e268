import HttpService.Failure.IoKind
/-! # Causes

What an error was caused by, as a chain: `Cause.sources` lists the causes behind a cause. An
input or output error that carries another error shows that error as itself, so that the chain goes
on behind the carried one. -/
set_option autoImplicit false

namespace HttpService

/-- An error value that can be the cause of another. -/
inductive Cause where
  /-- A text alone. -/
  | plain (message : String)
  /-- A text with the cause behind it. -/
  | because (message : String) (source : Cause)
  /-- A class of input or output errors. -/
  | io (kind : IoKind)
  /-- Such a class with a text of its own. -/
  | ioText (kind : IoKind) (message : String)
  /-- Such a class carrying another error. -/
  | ioCarrying (kind : IoKind) (carried : Cause)
  /-- A numbered error of the operating system. -/
  | system (code : Int)
deriving DecidableEq, Inhabited

namespace Cause

def display : Cause -> String
  | .plain message => message
  | .because message _ => message
  | .io kind => kind.description
  | .ioText _ message => message
  | .ioCarrying _ carried => carried.display
  | .system code => IoKind.systemMessage code

def source? : Cause -> Option Cause
  | .because _ source => some source
  | .ioCarrying _ carried => carried.source?
  | _ => none

/-- All causes behind this one, nearest first. -/
def sources : Cause -> List Cause
  | .because _ source => source :: source.sources
  | .ioCarrying _ carried => carried.sources
  | _ => []

def kind? : Cause -> Option IoKind
  | .io kind => some kind
  | .ioText kind _ => some kind
  | .ioCarrying kind _ => some kind
  | .system code => some (IoKind.ofSystemCode code)
  | _ => none

def chain (cause : Cause) : List Cause := cause :: cause.sources

/-- Does the chain show that the peer dropped the connection? -/
def losesConnection (cause : Cause) : Bool :=
  cause.chain.any fun link => link.kind?.any IoKind.losesConnection

theorem sources_eq_source? (cause : Cause) :
    cause.sources = match cause.source? with
      | some source => source.chain
      | none => [] := by
  induction cause with
  | ioCarrying kind carried hypothesis => simpa [sources, source?] using hypothesis
  | _ => rfl

end Cause

end HttpService
