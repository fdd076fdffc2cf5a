import TestImpact.Child.Launcher
import TestImpact.Proofs.Launch.Sessions

/-!
# Supervised children

Whatever becomes of a child, it is not left running: if it does not end in its time it is killed and
waited for. A call for which a child had to be killed has no exit code, and a launch with such a call
fails.
-/

namespace TestImpact.Proofs
open Session Child

variable {setting : Setting} {request : LaunchRequest} {plan : Plan} {call : LauncherCall}
  {s t : Session} {child : Behaviour} {f : Fault} {code : Int}

/-! ### What a child does meanwhile -/

/-- Whether a child runs, and how often it was waited for. -/
structure Watched where
  running : Bool
  waits : Nat

/-- A child runs once it was started, until a wait for it returns or it is killed. -/
def Watched.after (child : Behaviour) (w : Watched) : ChildStep → Watched
  | .start _ => { w with running := child.startFault.isNone }
  | .wait _ => ⟨w.running && !(child.waited w.waits).isOk, w.waits + 1⟩
  | .kill => { w with running := false }

/-- Whether a child runs after what was done to it. -/
def IsLeftRunning (child : Behaviour) (steps : List ChildStep) : Prop :=
  (steps.foldl (Watched.after child) ⟨false, 0⟩).running = true

/-! ### How a child is supervised -/

lemma supervise_of_startFault (h : child.startFault = some f) :
    supervise call child = ([.start call], .error f) := by
  obtain ⟨startFault, first, second⟩ := child
  obtain rfl : startFault = some f := h
  rfl

lemma supervise_of_code (hstart : child.startFault = none) (hfirst : child.first = .ok code) :
    supervise call child = ([.start call, .wait call.timeout], .ok code) := by
  obtain ⟨startFault, first, second⟩ := child
  obtain rfl : startFault = none := hstart
  obtain rfl : first = .ok code := hfirst
  rfl

/-- How a call ends whose child was killed. -/
inductive KilledEnd (call : LauncherCall) : Fault → Except Fault Int → Fault → Prop
  | unreaped {f g : Fault} : KilledEnd call f (.error g) g
  | timeout {command seconds : String} {code : Int} :
    KilledEnd call (.stillRunning command seconds) (.ok code)
      (.timeout s!"executor did not finish within {timeoutText call.timeout}s")
  | other {f : Fault} {code : Int} : (∀ command seconds, f ≠ .stillRunning command seconds) →
    KilledEnd call f (.ok code) f

lemma supervise_of_fault (call : LauncherCall) (hstart : child.startFault = none)
    (hfirst : child.first = .error f) :
    ∃ g, supervise call child =
        ([.start call, .wait call.timeout, .kill, .wait none], .error g) ∧
      KilledEnd call f child.second g := by
  obtain ⟨startFault, first, second⟩ := child
  obtain rfl : startFault = none := hstart
  obtain rfl : first = .error f := hfirst
  cases second with
  | error g => exact ⟨g, rfl, .unreaped⟩
  | ok code =>
    cases f with
    | stillRunning command seconds => exact ⟨_, rfl, .timeout⟩
    | _ =>
      refine ⟨_, rfl, .other ?_⟩
      intro command seconds h
      cases h

/-- A call has an exit code only if its child was not killed. -/
lemma fault_of_killed (h : .kill ∈ (supervise call child).1) :
    ∃ g, (supervise call child).2 = .error g := by
  cases hstart : child.startFault with
  | some f =>
    rw [supervise_of_startFault hstart]
    exact ⟨f, rfl⟩
  | none =>
    cases hfirst : child.first with
    | ok code =>
      rw [supervise_of_code hstart hfirst] at h
      simp at h
    | error f =>
      obtain ⟨g, hsupervise, -⟩ := supervise_of_fault call hstart hfirst
      rw [hsupervise]
      exact ⟨g, rfl⟩

lemma not_isLeftRunning (call : LauncherCall) (child : Behaviour) :
    ¬IsLeftRunning child (supervise call child).1 := by
  unfold IsLeftRunning
  cases hstart : child.startFault with
  | some f =>
    rw [supervise_of_startFault hstart]
    simp [Watched.after, hstart]
  | none =>
    cases hfirst : child.first with
    | ok code =>
      rw [supervise_of_code hstart hfirst]
      simp [Watched.after, Behaviour.waited, hfirst, Except.isOk, Except.toBool]
    | error f =>
      obtain ⟨g, hsupervise, -⟩ := supervise_of_fault call hstart hfirst
      rw [hsupervise]
      simp [Watched.after]

/-! ### Launches with supervised children -/

/-- A launch fails if the child that it started had to be killed. -/
lemma launch_of_killed {behave : LauncherCall → Files → Files × Behaviour}
    (hhand : handover? setting request s = some (plan, call, t))
    (hkill : .kill ∈ (supervise call (behave call t.files).2).1) :
    (∃ f, (s.launch setting (supervisor behave) request).2 = .error f) ∧
      (s.launch setting (supervisor behave) request).1.state = .failed := by
  obtain ⟨g, hg⟩ := fault_of_killed hkill
  have hplay : (supervisor behave call).play setting t =
      ({ t with files := (behave call t.files).1 }, .failure (.fault g)) := by
    simp only [supervisor, LauncherRun.play, hg]
  have hlaunch := launch_of_handover hhand hplay
  have hsettled := settled_finish_conclude setting request plan
    { t with files := (behave call t.files).1 } (.failure (.fault g))
  rw [← hlaunch] at hsettled
  cases hresult : (s.launch setting (supervisor behave) request).2 with
  | ok result =>
    rw [hlaunch, finish_result] at hresult
    obtain ⟨-, hexit, -⟩ := conclude_ok (Prod.ext rfl hresult)
    cases hexit
  | error f =>
    rw [hresult] at hsettled
    exact ⟨⟨f, rfl⟩, hsettled.state⟩

/-- A child that cannot be started ends its call with the reason. One that ends in its time is waited for
once, and its exit code is that of the call. Any other child is killed and waited for once more, without
a timeout, and its call has no exit code: it ends as the last wait did, if that failed, and else by a
timeout, if the child took too long, or as the first wait did. In no case is a child left running, and a
launch whose child was killed fails. -/
theorem child_is_seen_to_its_end (call : LauncherCall) (child : Behaviour) :
    (∀ f, child.startFault = some f → supervise call child = ([.start call], .error f)) ∧
    (child.startFault = none →
      (∀ code, child.first = .ok code →
        supervise call child = ([.start call, .wait call.timeout], .ok code)) ∧
      ∀ f, child.first = .error f → ∃ g, supervise call child =
          ([.start call, .wait call.timeout, .kill, .wait none], .error g) ∧
        KilledEnd call f child.second g) ∧
    ¬IsLeftRunning child (supervise call child).1 ∧
    ∀ (setting : Setting) (request : LaunchRequest) (s t : Session) (plan : Plan)
      (behave : LauncherCall → Files → Files × Behaviour),
      handover? setting request s = some (plan, call, t) →
      .kill ∈ (supervise call (behave call t.files).2).1 →
        (∃ f, (s.launch setting (supervisor behave) request).2 = .error f) ∧
          (s.launch setting (supervisor behave) request).1.state = .failed := by
  refine ⟨fun f => supervise_of_startFault, fun hstart => ⟨fun code => ?_, fun f => ?_⟩,
    not_isLeftRunning call child, fun setting request s t plan behave => launch_of_killed⟩
  · exact supervise_of_code hstart
  · exact supervise_of_fault call hstart

/-- A child that does not end in its time. -/
def slowChild : Behaviour := ⟨none, .error (.stillRunning "['java']" "30"), .ok (-9)⟩

theorem sample_child_is_killed :
    ∃ plan call t,
      handover? sampleSetting sampleRequest (Session.start sampleFiles) = some (plan, call, t) ∧
      (∃ text, supervise call slowChild =
        ([.start call, .wait call.timeout, .kill, .wait none], .error (.timeout text))) ∧
      ((Session.start sampleFiles).launch sampleSetting
        (supervisor fun _ files => (files, slowChild)) sampleRequest).1.state = .failed := by
  have hthere : (handover? sampleSetting sampleRequest (Session.start sampleFiles)).isSome =
      true := by decide +kernel
  obtain ⟨⟨plan, call, t⟩, hhand⟩ := Option.isSome_iff_exists.mp hthere
  obtain ⟨-, hstarted, -, hlaunch⟩ := child_is_seen_to_its_end call slowChild
  obtain ⟨g, hsupervise, hend⟩ := (hstarted rfl).2 _ rfl
  have hkill : .kill ∈ (supervise call slowChild).1 := by simp [hsupervise]
  obtain ⟨-, hstate⟩ := hlaunch sampleSetting sampleRequest (Session.start sampleFiles) t plan
    (fun _ files => (files, slowChild)) hhand hkill
  cases hend with
  | timeout => exact ⟨plan, call, t, hhand, ⟨_, hsupervise⟩, hstate⟩
  | other hother => exact absurd rfl (hother _ _)

end TestImpact.Proofs
