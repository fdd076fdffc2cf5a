import TestImpact.Launch.Basic

/-!
# Operations of a session

What can be asked of a session from outside: launches, plans, and the places and the upkeep of the
coverage artifact. Between operations the files may change.
-/

namespace TestImpact

/-- What is asked of a session, or happens to its files. -/
inductive Operation where
  | launch (launcher : Launcher) (request : LaunchRequest)
  | plan (request : LaunchRequest)
  | resolve (run : RunContext)
  | prepare (run : RunContext)
  | reset (path : Path)
  | change (f : Files → Files)

/-- The answer to an operation. -/
inductive Answer where
  | launched (result : Attempt LaunchResult)
  | planned (plan : Attempt Plan)
  | resolved (path : Path)
  | prepared (path : Attempt Path)
  | wasReset (done : Attempt Unit)
  | changed

namespace Operation

def isLaunch : Operation → Bool
  | launch .. => true
  | _ => false

end Operation

/-- How a launch ended, if the answer is that of a launch. -/
def Answer.outcome? : Answer → Option (Attempt LaunchResult)
  | launched result => some result
  | _ => none

namespace Session

/-- Carries out an operation. -/
def perform (setting : Setting) (s : Session) : Operation → Session × Answer
  | .launch launcher request =>
    let (s, result) := s.launch setting launcher request
    (s, .launched result)
  | .plan request =>
    (s, .planned (Plan.build setting.config (setting.around s.files) request))
  | .resolve run => (s, .resolved (setting.config.report.artifact run))
  | .prepare run =>
    let (s, path) := s.prepareArtifact setting run
    (s, .prepared path)
  | .reset path =>
    let (s, done) := s.resetArtifact setting path
    (s, .wasReset done)
  | .change f => ({ s with files := f s.files }, .changed)

/-- Carries out operations one after the other. -/
def performAll (setting : Setting) (s : Session) : List Operation → Session × List Answer
  | [] => (s, [])
  | op :: ops =>
    let (s, answer) := s.perform setting op
    let (s, answers) := s.performAll setting ops
    (s, answer :: answers)

end Session

end TestImpact
