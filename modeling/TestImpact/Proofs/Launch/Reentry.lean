import TestImpact.Proofs.Launch.Spawning

/-!
# Launches asked for by a launcher

A launcher may ask for launches of the session that it is part of. They are refused, and the launch in
flight does not notice them: with each of them replaced by its refusal it comes to the same end, with
the same files and the same log.
-/

namespace TestImpact.Proofs
open Session

variable {setting : Setting} {request : LaunchRequest} {plan : Plan} {call : LauncherCall}
  {s s' t u v : Session} {ending : LauncherEnd}

/-- The launcher that is told the refusals of its launches without asking for them. -/
def quiet : LauncherRun → LauncherRun
  | .ends e => .ends e
  | .change g next => .change g (quiet next)
  | .observe next => .observe fun files => quiet (next files)
  | .relaunch _ _ next => quiet (next (refusal .running))

def isReply : TraceEntry → Bool
  | .reply .. => true
  | _ => false

/-- The session without the answers to launches that a launcher asked for. -/
def unanswered (s : Session) : Session := { s with trace := s.trace.filter fun e => !isReply e }

@[simp] lemma unanswered_files (s : Session) : (unanswered s).files = s.files := rfl

@[simp] lemma unanswered_log (s : Session) (level : LogLevel) (event : String)
    (fields : List (String × Data)) :
    unanswered (s.log level event fields) = (unanswered s).log level event fields := by
  simp [unanswered, log, note, isReply]

@[simp] lemma unanswered_reply (s : Session) (answer : Attempt LaunchResult) (state : LaunchState) :
    unanswered (s.note (.reply answer state)) = unanswered s := by
  simp [unanswered, note, isReply]

lemma resetArtifact_unanswered (setting : Setting) (path : Path) (s : Session) :
    (unanswered s).resetArtifact setting path =
      (unanswered (s.resetArtifact setting path).1, (s.resetArtifact setting path).2) := by
  unfold resetArtifact
  rw [unanswered_files]
  split
  · rw [unanswered_log]
    rfl
  · split <;> rfl
  · rfl

lemma discardArtifact_unanswered (setting : Setting) (path : Path) (s : Session) :
    (unanswered s).discardArtifact setting path =
      (unanswered (s.discardArtifact setting path).1, (s.discardArtifact setting path).2) := by
  unfold discardArtifact
  rw [resetArtifact_unanswered]
  generalize s.resetArtifact setting path = done
  obtain ⟨t, outcome⟩ := done
  cases outcome with
  | ok _ => rfl
  | error failure =>
    cases failure with
    | error e =>
      obtain ⟨family, cause⟩ := e
      cases cause <;> simp
    | refused _ => rfl
    | fault _ => rfl

lemma conclude_unanswered (setting : Setting) (request : LaunchRequest) (plan : Plan) (s : Session)
    (ending : LauncherEnd) :
    (unanswered s).conclude setting request plan ending =
      (unanswered (s.conclude setting request plan ending).1,
        (s.conclude setting request plan ending).2) := by
  cases ending with
  | exit code =>
    unfold conclude
    rw [unanswered_files]
    dsimp only
    cases s.files.isFile (setting.location s.files) plan.artifact with
    | error f => rfl
    | ok present =>
      cases present with
      | true =>
        simp only [if_true, unanswered_log]
        rfl
      | false =>
        simp only [Bool.false_eq_true, if_false, unanswered_log]
        rfl
  | failure f =>
    by_cases hos : ∃ e, f = .fault (.os e)
    · obtain ⟨e, rfl⟩ := hos
      rfl
    · have hother : ∀ e, f ≠ .fault (.os e) := fun e he => hos ⟨e, he⟩
      rw [conclude_failure hother, conclude_failure hother, discardArtifact_unanswered]

lemma fail_unanswered (s : Session) (f : Failure) :
    (unanswered s).fail f = unanswered (s.fail f) := by
  cases f <;> simp only [fail, unanswered_log] <;> rfl

lemma finish_unanswered (outcome : Session × Attempt LaunchResult) :
    finish (unanswered outcome.1, outcome.2) =
      (unanswered (finish outcome).1, (finish outcome).2) := by
  obtain ⟨s, result⟩ := outcome
  cases result with
  | ok result => rfl
  | error f =>
    simp only [finish, fail_unanswered]
    rfl

/-- Without the launches that a launcher asks for, it comes to the same end. -/
lemma play_quiet {run : LauncherRun} (h : InFlight t s) (hsame : unanswered s' = unanswered s)
    (hplay : run.play setting s = (u, ending)) :
    ∃ u', (quiet run).play setting s' = (u', ending) ∧ unanswered u' = unanswered u := by
  induction run generalizing s s' with
  | ends e =>
    obtain ⟨rfl, rfl⟩ := Prod.mk.inj hplay
    exact ⟨s', rfl, hsame⟩
  | change g next ih =>
    have hfiles : s'.files = s.files := by rw [← unanswered_files, hsame, unanswered_files]
    have hstep : Step setting (.change g next) s next { s with files := g s.files } :=
      .change g next s
    refine ih (inFlight_step h hstep) ?_ hplay
    rw [hfiles]
    exact congrArg (fun w : Session => { w with files := g s.files }) hsame
  | observe next ih =>
    have hfiles : s'.files = s.files := by rw [← unanswered_files, hsame, unanswered_files]
    obtain ⟨u', hrun, hsame'⟩ := ih s.files h hsame hplay
    refine ⟨u', ?_, hsame'⟩
    rw [quiet, LauncherRun.play, hfiles]
    exact hrun
  | relaunch request nested next _ ih =>
    have hrefused := h.refuses setting nested request
    rw [launch] at hrefused
    rw [LauncherRun.play] at hplay
    simp only [hrefused] at hplay
    exact ih _ (h.note_reply _ _) (by simpa using hsame) hplay

/-- A launch is the same without the launches that its launcher asks for, but for the answers to
them. -/
theorem launch_quiet (setting : Setting) (launcher : Launcher) (request : LaunchRequest)
    (s : Session) :
    unanswered (s.launch setting (fun call => quiet (launcher call)) request).1 =
        unanswered (s.launch setting launcher request).1 ∧
      (s.launch setting (fun call => quiet (launcher call)) request).2 =
        (s.launch setting launcher request).2 := by
  cases hbusy : s.busy with
  | true =>
    rw [launch_busy hbusy, launch_busy hbusy]
    exact ⟨rfl, rfl⟩
  | false =>
    rcases handover_or_stop hbusy setting request with ⟨plan, call, t, hhand⟩ |
      ⟨t, f, -, hlaunch⟩
    · cases hplay : (launcher call).play setting t with
      | mk u ending =>
        obtain ⟨u', hplay', hsame⟩ := play_quiet (inFlight_handover hhand).1 rfl hplay
        have hquiet : ((fun call => quiet (launcher call)) call).play setting t = (u', ending) :=
          hplay'
        rw [launch_of_handover hhand hplay, launch_of_handover hhand hquiet]
        have hconclude := conclude_unanswered setting request plan u ending
        have hconclude' := conclude_unanswered setting request plan u' ending
        rw [hsame, hconclude] at hconclude'
        have hfinish := finish_unanswered (u.conclude setting request plan ending)
        have hfinish' := finish_unanswered (u'.conclude setting request plan ending)
        rw [← hconclude', hfinish] at hfinish'
        exact ⟨(Prod.mk.inj hfinish').1.symm, (Prod.mk.inj hfinish').2.symm⟩
    · rw [hlaunch, hlaunch]
      exact ⟨rfl, rfl⟩

end TestImpact.Proofs
