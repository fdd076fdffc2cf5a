import TestImpact.Launch.Session

/-!
# The coverage artifact

The file that the agent writes coverage to. A stale one is removed before a run, and the directory
around it is made; an artifact whose run did not complete is removed after it.
-/

namespace TestImpact.Session

/-- Removes a stale artifact. It is no error if there is none. -/
def resetArtifact (setting : Setting) (path : Path) (s : Session) : Session × Attempt Unit :=
  match s.files.unlink (setting.location s.files) path with
  | .ok files =>
    (({ s with files }).log .debug "artifact.stale_removed" [("path", path.toText)], .ok ())
  | .error (.os e) =>
    if e.kind = .noEntry then (s, .ok ())
    else (s, .error (.error (.of (.resetFailed path.toText e.message))))
  | .error f => (s, .error (.fault f))

/-- Removes a stale artifact and makes the directory around it. -/
def prepareArtifact (setting : Setting) (run : RunContext) (s : Session) : Session × Attempt Path :=
  let path := setting.config.report.artifact run
  match s.resetArtifact setting path with
  | (s, .error e) => (s, .error e)
  | (s, .ok ()) =>
    let (files, made) := s.files.ensureDir (setting.location s.files) path.parent
    let s := { s with files }
    match made with
    | .ok () => (s, .ok path)
    | .error (.os e) =>
      (s, .error (.error (.of (.osFailure "mkdir" s!"{path.parent}: {e.message}"))))
    | .error f => (s, .error (.fault f))

/-- Removes the artifact of a run that was stopped, since its contents are not known to be whole. A
failure is logged, so that it does not hide why the run was stopped. -/
def discardArtifact (setting : Setting) (path : Path) (s : Session) : Session × Except Fault Unit :=
  match s.resetArtifact setting path with
  | (s, .ok ()) => (s, .ok ())
  | (s, .error (.fault f)) => (s, .error f)
  | (s, .error (.error ⟨_, .resetFailed _ reason⟩)) =>
    (s.log .warning "artifact.discard_failed" [("path", path.toText), ("reason", reason)], .ok ())
  | (s, .error _) => (s, .ok ())

end TestImpact.Session
