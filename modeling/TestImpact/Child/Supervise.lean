import TestImpact.Launch.Session

/-!
# Supervising a child process

A child is started and waited for. If waiting for it ends in any way but with its exit code, the
child is killed and waited for once more, so that none is left running.
-/

namespace TestImpact.Child

/-- What is done to a child, in order. -/
inductive ChildStep where
  | start (call : LauncherCall)
  | wait (timeout : Option Data.Number)
  | kill
  deriving Inhabited

def ChildStep.isWait : ChildStep → Bool
  | wait _ => true
  | _ => false

/-- How a child behaves: why it cannot be started, if so, and how the first and the second wait for
it end. -/
structure Behaviour where
  startFault : Option Fault
  first : Except Fault Int
  second : Except Fault Int
  deriving Inhabited

/-- How a wait ends, by the number of waits before it. -/
def Behaviour.waited (child : Behaviour) : Nat → Except Fault Int
  | 0 => child.first
  | _ + 1 => child.second

/-- The text of a timeout. -/
def timeoutText (timeout : Option Data.Number) : String :=
  match timeout with
  | some (.int n) => toString n
  | some (.float x) => x.toText
  | none => Data.null.toText

/-- Whether a fault means that a wait took too long. -/
def isStillRunning : Fault → Bool
  | .stillRunning .. => true
  | _ => false

/-- What is done to a child is noted, whether it ends well or not. -/
abbrev Handling := ExceptT Fault (StateM (List ChildStep))

namespace Handling

def note (step : ChildStep) : Handling Unit := modify (· ++ [step])

def start (child : Behaviour) (call : LauncherCall) : Handling Unit := do
  note (.start call)
  match child.startFault with
  | some f => throw f
  | none => pure ()

def wait (child : Behaviour) (timeout : Option Data.Number) : Handling Int := do
  let before := (← get).countP ChildStep.isWait
  note (.wait timeout)
  match child.waited before with
  | .ok code => pure code
  | .error f => throw f

def kill : Handling Unit := note .kill

/-- A child is waited for until its time is up; in whatever way that fails, it is not left running. A
wait that took too long is a timeout of the call. -/
def carryOut (child : Behaviour) (call : LauncherCall) : Handling Int := do
  start child call
  try wait child call.timeout
  catch f =>
    kill
    discard (wait child none)
    throw (if isStillRunning f then
      .timeout s!"executor did not finish within {timeoutText call.timeout}s" else f)

end Handling

/-- What is done to a child for a call, and how the call ends. -/
def supervise (call : LauncherCall) (child : Behaviour) : List ChildStep × Except Fault Int :=
  let (result, steps) := ((Handling.carryOut child call).run.run []).run
  (steps, result)

end TestImpact.Child
