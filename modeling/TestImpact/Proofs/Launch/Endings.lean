import TestImpact.Proofs.Launch.Interruption

/-!
# How a launcher's failure is reported

A launch whose launcher fails ends with that failure, or with an error that names it, whatever state
the files are in. The artifact is discarded before, and what goes wrong with that is only told.
-/

namespace TestImpact.Proofs
open Files Session

variable {setting : Setting} {request : LaunchRequest} {plan : Plan} {call : LauncherCall}
  {launcher : Launcher} {s t u : Session} {f : Failure}

/-- What is reported as the timeout of a request: the timeout itself, where none and zero are zero
seconds. -/
inductive ReportedAs : Option Data.Number → Data → Prop
  | none : ReportedAs none (.float (.ofInt 0))
  | zero : ReportedAs (some (.int 0)) (.float (.ofInt 0))
  | zeroFloat {x : Binary64} : x.isZero = true →
    ReportedAs (some (.float x)) (.float (.ofInt 0))
  | int {n : Int} : n ≠ 0 → ReportedAs (some (.int n)) (.int n)
  | float {x : Binary64} : x.isZero = false → ReportedAs (some (.float x)) (.float x)

lemma reportedAs_reportedTimeout (timeout : Option Data.Number) :
    ReportedAs timeout (reportedTimeout timeout) := by
  rcases timeout with _ | n | x
  · exact .none
  · by_cases hn : n = 0
    · subst hn
      exact .zero
    · rw [reportedTimeout, if_neg hn]
      exact .int hn
  · cases hx : x.isZero with
    | true =>
      rw [reportedTimeout, if_pos hx]
      exact .zeroFloat hx
    | false =>
      rw [reportedTimeout, if_neg (by simp [hx])]
      exact .float hx

/-- Between the end of its launcher and its own, a launch tries to remove the artifact and tells of it,
and then it tells of its failure. -/
def DiscardsFirst (setting : Setting) (path : Path) (u v : Session) (f : Failure) : Prop :=
  ∃ told last, Removal setting path u v.files told ∧
    v.trace = u.trace ++ (told ++ [last]).map .record ∧ lastEvents (.error f) = [last.event]

lemma exists_last (s : Session) (f : Failure) : ∃ last,
    (s.fail f).trace = s.trace ++ [.record last] ∧ lastEvents (.error f) = [last.event] := by
  obtain ⟨records, htrace, hevents, -⟩ := (fail_tells s f).records
  have hone : records.length = 1 := by
    have hlength := congrArg List.length hevents
    rw [List.length_map] at hlength
    rw [hlength]
    cases f <;> rfl
  obtain ⟨last, rfl⟩ := List.length_eq_one_iff.mp hone
  exact ⟨last, htrace, hevents.symm⟩

/-- After a failure of the launcher, other than an error of the system, the artifact is discarded first,
and the failure is reported whatever becomes of that. -/
lemma launch_discards_first (hhand : handover? setting request s = some (plan, call, t))
    (hplay : (launcher call).play setting t = (u, .failure f)) (hos : ∀ e, f ≠ .fault (.os e)) :
    (s.launch setting launcher request).2 = .error (reportedFailure request f) ∧
      DiscardsFirst setting plan.artifact u (s.launch setting launcher request).1
        (reportedFailure request f) := by
  obtain ⟨files, told, hremoval, hdone⟩ :=
    discardArtifact_removal (hasNull_of_handover hhand) setting u
  rw [launch_of_handover hhand hplay, conclude_failure hos, hdone]
  obtain ⟨last, htrace, hlast⟩ :=
    exists_last { u with files, trace := u.trace ++ told.map .record } (reportedFailure request f)
  refine ⟨rfl, told, last, ?_, ?_, hlast⟩
  · rw [finish_files]
    exact hremoval
  · change (fail _ _).trace = _
    rw [htrace, List.map_append, List.append_assoc]
    rfl

lemma discard_failed_once {v : Session} {e : OsError} {g : Failure}
    (hhand : handover? setting request s = some (plan, call, t))
    (hplay : (launcher call).play setting t = (u, .failure f))
    (hdiscards : DiscardsFirst setting plan.artifact u v g)
    (hunlink : u.files.unlink (setting.location u.files) plan.artifact = .error (.os e))
    (hkind : e.kind ≠ .noEntry) :
    (eventsOf v.trace).count "artifact.discard_failed" =
      (eventsOf s.trace).count "artifact.discard_failed" + 1 := by
  obtain ⟨told, last, hremoval, htrace, hlast⟩ := hdiscards
  have hbefore : (preparationEvents setting request s.files ++
      ["launch.spawning", "launch.arguments"]).count "artifact.discard_failed" = 0 := by
    rw [List.count_eq_zero]
    intro hmem
    rcases List.mem_append.mp hmem with hmem | hmem
    · exact absurd (mem_preparationEvents hmem) (by decide)
    · simp at hmem
  have hafter : [last.event].count "artifact.discard_failed" = 0 := by
    rw [← hlast, List.count_eq_zero]
    intro hmem
    exact absurd (mem_lastEvents hmem) (by decide)
  have hattempt : (told.map (·.event)).count "artifact.discard_failed" = 1 := by
    generalize v.files = files at hremoval
    cases hremoval with
    | removed hdone => simp [hdone] at hunlink
    | missing hmissing hkind' =>
      rw [hmissing] at hunlink
      obtain rfl := Fault.os.inj (Except.error.inj hunlink)
      exact absurd hkind' hkind
    | failed hfailed _ => rfl
  have hstart := told_before_end hhand hplay
  generalize preparationEvents setting request s.files ++ _ = before at hbefore hstart
  rw [htrace, eventsOf_append, hstart, eventsOf_records, List.map_append]
  simp only [List.count_append, hbefore, hattempt, hafter, List.map_cons, List.map_nil,
    Nat.add_zero]

/-- A launch whose launcher fails ends as the launcher did, and nothing that goes wrong with the files
hides that. A timeout is reported as a cancelled launch, with the timeout of the request. An error of
the system is reported as one of spawning, with the first word of the command and its text. Any other
failure is reported as it is. Unless it was an error of the system, the launch tries to remove the
artifact before it reports the failure, and an attempt that fails is told once. -/
theorem failure_is_reported (setting : Setting) (launcher : Launcher) (request : LaunchRequest)
    (s t u : Session) (plan : Plan) (call : LauncherCall) (f : Failure)
    (hhand : handover? setting request s = some (plan, call, t))
    (hplay : (launcher call).play setting t = (u, .failure f)) :
    ∃ g, (s.launch setting launcher request).2 = .error g ∧
      (∀ text, f = .fault (.timeout text) → ∃ e seconds, g = .error e ∧ e.family = .cancelled ∧
        e.cause.details = [("timeout_sec", seconds)] ∧ ReportedAs request.timeout seconds) ∧
      (∀ e, f = .fault (.os e) → ∃ e' first rest, call.command = first :: rest ∧ g = .error e' ∧
        e'.family = .spawn ∧ e'.cause = .osFailure first e.message) ∧
      ((∀ text, f ≠ .fault (.timeout text)) → (∀ e, f ≠ .fault (.os e)) → g = f) ∧
      ((∀ e, f ≠ .fault (.os e)) →
        DiscardsFirst setting plan.artifact u (s.launch setting launcher request).1 g ∧
          ∀ e, u.files.unlink (setting.location u.files) plan.artifact = .error (.os e) →
            e.kind ≠ .noEntry →
            (eventsOf (s.launch setting launcher request).1.trace).count
                "artifact.discard_failed" =
              (eventsOf s.trace).count "artifact.discard_failed" + 1) := by
  by_cases hos : ∃ e, f = .fault (.os e)
  · obtain ⟨e, rfl⟩ := hos
    obtain ⟨hplanned, rfl⟩ := handover_call hhand
    have hresult : (s.launch setting launcher request).2 =
        .error (.error (.of (.osFailure (plan.command.headD "") e.message))) := by
      rw [launch_of_handover hhand hplay]
      rfl
    refine ⟨_, hresult, by simp, fun e' he => ?_, fun _ hother => absurd rfl (hother e),
      fun hother => absurd rfl (hother e)⟩
    obtain rfl := Fault.os.inj (Failure.fault.inj he)
    rw [hplanned.command]
    exact ⟨_, _, _, rfl, rfl, rfl, rfl⟩
  · have hother : ∀ e, f ≠ .fault (.os e) := fun e he => hos ⟨e, he⟩
    obtain ⟨hresult, hdiscards⟩ := launch_discards_first hhand hplay hother
    refine ⟨_, hresult, ?_, fun e he => absurd he (hother e), ?_,
      fun _ => ⟨hdiscards, fun e => discard_failed_once hhand hplay hdiscards⟩⟩
    · rintro text rfl
      exact ⟨_, _, rfl, rfl, rfl, reportedAs_reportedTimeout request.timeout⟩
    · intro htimeout _
      unfold reportedFailure
      split
      · exact absurd rfl (htimeout _)
      · rfl

/-- A launcher that leaves a directory where the artifact is to be, and is stopped after its time. -/
def blockingLauncher : Launcher := fun _ =>
  .change (fun fs => (fs.ensureDir ["w"] sampleArtifact).1)
    (.ends (.failure (.fault (.timeout "timed out"))))

/-- The error of the system with which an operation on files ended. -/
def osErrorOf? {α : Type} : Except Fault α → Option OsError
  | .error (.os e) => some e
  | _ => none

lemma eq_of_osErrorOf? {α : Type} {x : Except Fault α} {e : OsError} (h : osErrorOf? x = some e) :
    x = .error (.os e) := by
  unfold osErrorOf? at h
  split at h
  · rw [Option.some.inj h]
  · simp at h

/-- The artifact cannot be removed, which is told once, and the launch is reported as cancelled. -/
theorem sample_timeout_is_reported :
    ∃ e, ((Session.start sampleFiles).launch sampleSetting blockingLauncher
        { sampleRequest with timeout := some (.int 30) }).2 = .error (.error e) ∧
      e.cause.details = [("timeout_sec", .int 30)] ∧
      (eventsOf ((Session.start sampleFiles).launch sampleSetting blockingLauncher
        { sampleRequest with timeout := some (.int 30) }).1.trace).count
          "artifact.discard_failed" = 1 := by
  let request := { sampleRequest with timeout := some (.int 30) }
  have hblocked : (handover? sampleSetting request (Session.start sampleFiles)).any
      (fun (plan, call, t) =>
        let u := ((blockingLauncher call).play sampleSetting t).1
        (osErrorOf? (u.files.unlink (sampleSetting.location u.files) plan.artifact)).any
          fun e => e.kind ≠ .noEntry) = true := by decide +kernel
  obtain ⟨⟨plan, call, t⟩, hhand, hunlink⟩ := (Option.any_eq_true _ _).mp hblocked
  obtain ⟨e, he, hkind⟩ := (Option.any_eq_true _ _).mp hunlink
  obtain ⟨g, hresult, htimeout, -, -, hdiscards⟩ := failure_is_reported sampleSetting
    blockingLauncher request (Session.start sampleFiles) t _ plan call _ hhand rfl
  obtain ⟨e', seconds, rfl, -, hdetails, hseconds⟩ := htimeout "timed out" rfl
  refine ⟨e', hresult, ?_, (hdiscards (by simp)).2 e (eq_of_osErrorOf? he) (of_decide_eq_true hkind)⟩
  cases hseconds
  exact hdetails

end TestImpact.Proofs
