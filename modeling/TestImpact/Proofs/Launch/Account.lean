import TestImpact.Proofs.Launch.Interruption

/-!
# The account of a launch

The trace of a launch tells what happened in it: whether an artifact of an earlier run was removed,
whether the launcher was called, and how the launch ended.
-/

namespace TestImpact.Proofs
open Files Session

variable {setting : Setting} {request : LaunchRequest} {plan : Plan} {call : LauncherCall}
  {launcher : Launcher} {s t u : Session} {ending : LauncherEnd} {f : Failure}
  {rest : List String}

/-- An entry stood at the path of the artifact before the preparation of a launch, and not after it. -/
def ArtifactRemoved (setting : Setting) (request : LaunchRequest) (s : Session) : Prop :=
  ∃ l entry, s.files.find (setting.location s.files) false
      (setting.config.report.artifact request.context) = .ok ⟨l, some entry⟩ ∧
    s.files.get? l = some entry ∧
    ((s.begin setting).prepare setting request).1.files.get? l ≠ some entry

/-- Nothing is started, and nothing is told of a start. -/
structure Unstarted (entries : List TraceEntry) : Prop where
  calls : callsOf entries = 0
  spawning : "launch.spawning" ∉ eventsOf entries
  arguments : "launch.arguments" ∉ eventsOf entries

/-- What a launch adds to the trace, given how it ended. -/
structure Account (setting : Setting) (request : LaunchRequest) (s : Session)
    (outcome : Attempt LaunchResult) (entries : List TraceEntry) : Prop where
  starts : (eventsOf entries).head? = some "launch.preparing"
  /-- The outcome is told last, and only there. -/
  ends : ∃ before, eventsOf entries = before ++ lastEvents outcome ∧
    ∀ event ∈ before, event ∉ outcomeEvents
  called : ∀ plan call t, handover? setting request s = some (plan, call, t) →
    ∃ first last r r', entries = first ++ .record r :: .record r' :: .call call .running :: last ∧
      r.event = "launch.spawning" ∧ r'.event = "launch.arguments" ∧
      Unstarted first ∧ Unstarted last
  uncalled : handover? setting request s = none → Unstarted entries
  removal : "artifact.stale_removed" ∈ (eventsOf entries).takeWhile (· ≠ "launch.spawning") ↔
    ArtifactRemoved setting request s
  ids : ∀ r ∈ recordsOf entries, r.runId = some (setting.runIds s.launches)
  environment : ∀ call state, TraceEntry.call call state ∈ entries →
    call.env.get? "TIALAUNCH_RUN_ID" = some (setting.runIds s.launches)

/-! ### The artifact of an earlier run -/

lemma stale_mem_preparationEvents {fs : Files} :
    "artifact.stale_removed" ∈ preparationEvents setting request fs ↔
      (∃ plan, Plan.build setting.config (setting.around fs) request = .ok plan) ∧
        ∃ later, fs.unlink (setting.location fs)
          (setting.config.report.artifact request.context) = .ok later := by
  unfold preparationEvents removalEvents
  cases Plan.build setting.config (setting.around fs) request with
  | error f => simp
  | ok plan =>
    cases fs.unlink (setting.location fs) (setting.config.report.artifact request.context) <;> simp

/-- After the artifact was cleared away, the preparation of a launch only makes directories. -/
lemma prepare_grows (hbuild : Plan.build setting.config (setting.around s.files) request = .ok plan) :
    Grows (cleared setting request.context s.files).1 (s.prepare setting request).1.files := by
  have hhoused := housed_built setting request.context s.files
  have hfurnished := furnished_built setting request.context s.files
  rcases prepare_files setting request s with ⟨⟨f, hf⟩, -⟩ | ⟨-, hfiles | hfiles | hfiles⟩
  · simp [hbuild] at hf
  all_goals rw [hfiles]
  · exact .refl _
  · exact hhoused.toGrows
  · exact (hhoused.trans hfurnished).toGrows

/-- A launch tells of the removal of an artifact exactly if there was one. -/
lemma artifactRemoved_iff : ArtifactRemoved setting request s ↔
    "artifact.stale_removed" ∈ preparationEvents setting request s.files := by
  rw [stale_mem_preparationEvents]
  constructor
  · rintro ⟨l, entry, -, hthere, hgone⟩
    rcases prepare_files setting request (s.begin setting) with ⟨-, hsame⟩ | ⟨⟨plan, hbuild⟩, -⟩
    · rw [hsame] at hgone
      exact absurd hthere hgone
    · have hgrows := prepare_grows hbuild
      change Grows (cleared setting request.context s.files).1 _ at hgrows
      refine ⟨⟨plan, hbuild⟩, ?_⟩
      cases hunlink : s.files.unlink (setting.location s.files)
          (setting.config.report.artifact request.context) with
      | ok later => exact ⟨later, rfl⟩
      | error g =>
        have hkept : (cleared setting request.context s.files).1 = s.files := by
          rw [cleared, hunlink]
        rw [hkept] at hgrows
        exact absurd (hgrows.keeps l entry hthere) hgone
  · rintro ⟨⟨plan, hbuild⟩, later, hunlink⟩
    have hgrows := prepare_grows (s := s.begin setting) hbuild
    have hcleared : (cleared setting request.context s.files).1 = later := by
      rw [cleared, hunlink]
    change Grows (cleared setting request.context s.files).1 _ at hgrows
    rw [hcleared] at hgrows
    obtain ⟨l, entry, hfind, hdir, hthere, hget⟩ := get?_of_unlink hunlink
    refine ⟨l, entry, hfind, hthere, ?_⟩
    have hnone : later.get? l = none := by rw [hget, if_pos rfl]
    -- Whatever was made at the place since is a directory, and the entry was none.
    rcases hgrows.adds l hnone with hn | hd
    · rw [hn]
      simp
    · rw [hd]
      exact fun he => hdir (Option.some.inj he).symm

lemma removal_told_iff
    (hrest : "artifact.stale_removed" ∉ rest.takeWhile (· ≠ "launch.spawning")) :
    "artifact.stale_removed" ∈ (preparationEvents setting request s.files ++ rest).takeWhile
        (· ≠ "launch.spawning") ↔ ArtifactRemoved setting request s := by
  have hspawning : "launch.spawning" ∉ preparationEvents setting request s.files :=
    fun h => absurd (mem_preparationEvents h) (by decide)
  have hall : ∀ event ∈ preparationEvents setting request s.files,
      decide (event ≠ "launch.spawning") = true :=
    fun event hevent => decide_eq_true (ne_of_mem_of_not_mem hevent hspawning)
  rw [List.takeWhile_append_of_pos hall, List.mem_append, or_iff_left hrest, artifactRemoved_iff]

/-! ### Launches that do not start the executor -/

lemma unstarted_records {records : List LogRecord}
    (hspawning : "launch.spawning" ∉ records.map (·.event))
    (harguments : "launch.arguments" ∉ records.map (·.event)) :
    Unstarted (records.map .record) := by
  refine ⟨callsOf_records records, ?_, ?_⟩
  all_goals rwa [eventsOf_records]

lemma account_of_stop (happroach : (s.begin setting).approach setting request
      (setting.runIds s.launches) = (t, .error f)) (hidle : s.busy = false) :
    ∃ entries, (t.fail f).trace = s.trace ++ entries ∧
      Account setting request s (.error f) entries := by
  have htells : Tells (s.begin setting) (t.fail f)
      (preparationEvents setting request s.files ++ lastEvents (.error f)) :=
    (approach_tells happroach).trans (fail_tells t f)
  obtain ⟨records, htrace, hevents, hids⟩ := htells.records
  have hnone : handover? setting request s = none := by
    rw [handover?, if_neg (by simp [hidle]), happroach]
  refine ⟨records.map .record, htrace, ?_⟩
  have hunstarted : Unstarted (records.map TraceEntry.record) := by
    apply unstarted_records
    all_goals
      rw [hevents, List.mem_append]
      rintro (h | h)
      · exact absurd (mem_preparationEvents h) (by decide)
      · exact absurd (mem_lastEvents h) (by decide)
  constructor
  case starts =>
    rw [eventsOf_records, hevents]
    rfl
  case ends =>
    have hapart : ∀ event ∈ ["launch.preparing", "artifact.stale_removed"],
        event ∉ outcomeEvents := by decide
    rw [eventsOf_records]
    exact ⟨_, hevents, fun event hevent => hapart event (mem_preparationEvents hevent)⟩
  case called =>
    intro plan call t hsome
    simp [hnone] at hsome
  case uncalled => exact fun _ => hunstarted
  case removal =>
    rw [eventsOf_records, hevents]
    refine removal_told_iff fun h => ?_
    exact absurd (mem_lastEvents ((List.takeWhile_sublist _).mem h)) (by decide)
  case ids =>
    rw [recordsOf_records]
    exact hids
  case environment =>
    intro call state hcall
    obtain ⟨r, -, hr⟩ := List.mem_map.mp hcall
    simp at hr

/-! ### Launches that start the executor -/

/-- A launcher adds nothing to the trace but answers to launches that it asked for. -/
lemma play_adds (hhand : handover? setting request s = some (plan, call, t))
    (hplay : (launcher call).play setting t = (u, ending)) :
    ∃ replies, u.trace = t.trace ++ replies ∧ recordsOf replies = [] ∧ callsOf replies = 0 := by
  have hflight := inFlight_handover hhand
  have hrun := inFlight_play hflight.1 hplay
  obtain ⟨replies, hreplies⟩ := trace_reached hflight.1 (reached_play _ _ hplay)
  have hrecords := hrun.records
  have hcalls := hrun.calls
  rw [← hreplies, recordsOf_append] at hrecords
  rw [← hreplies, callsOf_append] at hcalls
  exact ⟨replies, hreplies.symm, List.append_right_eq_self.mp hrecords, by omega⟩

lemma finish_tells (setting : Setting) (request : LaunchRequest) (plan : Plan) (u : Session)
    (ending : LauncherEnd) :
    ∃ v before, Tells u v (before ++ lastEvents (u.conclude setting request plan ending).2) ∧
      (∀ event ∈ before, event ∈ discardEvents) ∧
      (finish (u.conclude setting request plan ending)).1.trace = v.trace := by
  have hconclude := conclude_tells setting request plan u ending
  split at hconclude
  · rename_i v result heq
    rw [heq]
    exact ⟨v, [], hconclude, by simp, rfl⟩
  · rename_i v f heq
    obtain ⟨before, htells, hbefore⟩ := hconclude
    rw [heq]
    exact ⟨_, before, htells.trans (fail_tells v f), hbefore, rfl⟩

lemma call_not_mem {entries : List TraceEntry} (h : callsOf entries = 0) (call : LauncherCall)
    (state : LaunchState) : TraceEntry.call call state ∉ entries :=
  fun hmem => List.countP_eq_zero.mp h _ hmem rfl

lemma runId_of_handover (hhand : handover? setting request s = some (plan, call, t)) :
    call.env.get? "TIALAUNCH_RUN_ID" = some (setting.runIds s.launches) := by
  rw [(handover_call hhand).2]
  exact (Environment.get?_set _ _ _ _).trans (if_pos rfl)

lemma account_of_parts {first : List LogRecord} {r r' : LogRecord} {last : List TraceEntry}
    {before : List String} {outcome : Attempt LaunchResult}
    (hhand : handover? setting request s = some (plan, call, t))
    (hfirst : first.map (·.event) = preparationEvents setting request s.files)
    (hr : r.event = "launch.spawning") (hr' : r'.event = "launch.arguments")
    (hlast : eventsOf last = before ++ lastEvents outcome)
    (hbefore : ∀ event ∈ before, event ∈ discardEvents) (hquiet : callsOf last = 0)
    (hids : ∀ x ∈ first ++ r :: r' :: recordsOf last, x.runId = some (setting.runIds s.launches)) :
    Account setting request s outcome
      (first.map .record ++ .record r :: .record r' :: .call call .running :: last) := by
  have hevents : eventsOf (first.map .record ++ .record r :: .record r' ::
      .call call .running :: last) = preparationEvents setting request s.files ++
        "launch.spawning" :: "launch.arguments" :: (before ++ lastEvents outcome) := by
    rw [eventsOf_append, eventsOf_records, hfirst, ← hlast, ← hr, ← hr']
    rfl
  have hunstarted : Unstarted (first.map TraceEntry.record) := by
    apply unstarted_records
    all_goals
      rw [hfirst]
      exact fun h => absurd (mem_preparationEvents h) (by decide)
  have hended : Unstarted last := by
    refine ⟨hquiet, ?_, ?_⟩
    all_goals
      rw [hlast, List.mem_append]
      rintro (h | h)
      · exact absurd (hbefore _ h) (by decide)
      · exact absurd (mem_lastEvents h) (by decide)
  constructor
  case starts =>
    rw [hevents]
    rfl
  case ends =>
    have hapart : ∀ event ∈ ["launch.preparing", "artifact.stale_removed"] ++
        "launch.spawning" :: "launch.arguments" :: discardEvents, event ∉ outcomeEvents := by decide
    refine ⟨preparationEvents setting request s.files ++
      "launch.spawning" :: "launch.arguments" :: before, by rw [hevents]; simp, ?_⟩
    intro event hevent
    apply hapart
    rcases List.mem_append.mp hevent with h | h
    · exact List.mem_append_left _ (mem_preparationEvents h)
    · apply List.mem_append_right
      simp only [List.mem_cons] at h ⊢
      exact h.imp_right (Or.imp_right (hbefore event))
  case called =>
    intro plan' call' t' hsome
    obtain ⟨rfl, rfl, rfl⟩ : plan = plan' ∧ call = call' ∧ t = t' := by simpa [hhand] using hsome
    exact ⟨_, _, r, r', rfl, hr, hr', hunstarted, hended⟩
  case uncalled =>
    intro hnone
    simp [hhand] at hnone
  case removal =>
    rw [hevents]
    exact removal_told_iff (by simp)
  case ids =>
    intro x hx
    exact hids x (by simpa [recordsOf] using hx)
  case environment =>
    intro call' state hcall
    -- The one call is that of the handover.
    have hone : call' = call := by
      rcases List.mem_append.mp hcall with h | h
      · exact absurd h (call_not_mem hunstarted.calls _ _)
      · simp only [List.mem_cons, reduceCtorEq, false_or, TraceEntry.call.injEq] at h
        rcases h with ⟨rfl, -⟩ | h
        · rfl
        · exact absurd h (call_not_mem hquiet _ _)
    rw [hone]
    exact runId_of_handover hhand

lemma account_of_handover (hhand : handover? setting request s = some (plan, call, t))
    (hplay : (launcher call).play setting t = (u, ending)) :
    ∃ entries,
      (finish (u.conclude setting request plan ending)).1.trace = s.trace ++ entries ∧
        Account setting request s (u.conclude setting request plan ending).2 entries := by
  obtain ⟨-, happroach⟩ := handover_approach hhand
  obtain ⟨-, -, -, -, v, htells, rfl⟩ := approach_ok happroach
  -- What is told before the call, then the answers during it, then what is told after it.
  obtain ⟨records, hstart, hevents, hids⟩ := htells.records
  obtain ⟨first, more, rfl, hfirst, hmore⟩ := List.map_eq_append_iff.mp hevents
  obtain ⟨r, more', rfl, hr, hmore'⟩ := List.map_eq_cons_iff.mp hmore
  obtain ⟨r', none', rfl, hr', hnone⟩ := List.map_eq_cons_iff.mp hmore'
  obtain rfl := List.map_eq_nil_iff.mp hnone
  obtain ⟨replies, hreplies, hsilent, hquiet⟩ := play_adds hhand hplay
  obtain ⟨w, before, hlast, hbefore, hfinal⟩ := finish_tells setting request plan u ending
  obtain ⟨later, hlater, htold, hlaterIds⟩ := hlast.records
  have hflight := inFlight_handover hhand
  have hid : u.runId = some (setting.runIds s.launches) :=
    (inFlight_play hflight.1 hplay).runId.trans hflight.2
  refine ⟨first.map .record ++ .record r :: .record r' :: .call call .running ::
    (replies ++ later.map .record), ?_, account_of_parts hhand hfirst hr hr' ?_ hbefore ?_ ?_⟩
  · rw [hfinal, hlater, hreplies, note, hstart]
    simp [Session.begin]
  · rw [eventsOf_append, eventsOf_records, htold, eventsOf, hsilent]
    rfl
  · rw [callsOf_append, callsOf_records, hquiet]
  · intro x hx
    rw [recordsOf_append, recordsOf_records, hsilent, List.nil_append] at hx
    rw [show first ++ r :: r' :: later = (first ++ [r, r']) ++ later by simp,
      List.mem_append] at hx
    rcases hx with hx | hx
    · exact hids x hx
    · exact (hlaterIds x hx).trans hid

/-! ### Launches and what they tell -/

/-- The trace of a launch that was not refused tells what happened in it. It starts with the
preparation. An artifact that is told to be removed before the start was there, and it is gone. The
start is told right before the launcher is called, and only if it is. At the end the outcome is told
once: that the launch was completed, that it failed, or that it was interrupted; a completed launch
tells after that if there is no coverage. All that is told has the run id of the launch, which the
launcher finds in its environment. -/
theorem launch_is_accounted (setting : Setting) (launcher : Launcher) (request : LaunchRequest)
    (s : Session) (hidle : s.busy = false) :
    ∃ entries, (s.launch setting launcher request).1.trace = s.trace ++ entries ∧
      Account setting request s (s.launch setting launcher request).2 entries := by
  rcases handover_or_stop hidle setting request with ⟨plan, call, t, hhand⟩ |
    ⟨t, f, happroach, hlaunch⟩
  · cases hplay : (launcher call).play setting t with
    | mk u ending =>
      rw [launch_of_handover hhand hplay, finish_result]
      exact account_of_handover hhand hplay
  · rw [hlaunch]
    exact account_of_stop happroach hidle

/-- A launch over an artifact of an earlier run, whose launcher asks for another launch and writes no
artifact. -/
theorem sample_launch_is_accounted :
    ∃ entries, Account sampleSetting sampleRequest (Session.start (writeSample sampleFiles))
        ((Session.start (writeSample sampleFiles)).launch sampleSetting
          (fun _ => .relaunch sampleRequest idleLauncher fun _ => .ends (.exit 1)) sampleRequest).2
        entries ∧
      eventsOf entries = ["launch.preparing", "artifact.stale_removed", "launch.spawning",
        "launch.arguments", "launch.completed", "launch.no_coverage"] ∧
      ArtifactRemoved sampleSetting sampleRequest (Session.start (writeSample sampleFiles)) := by
  have hevents : eventsOf ((Session.start (writeSample sampleFiles)).launch sampleSetting
      (fun _ => .relaunch sampleRequest idleLauncher fun _ => .ends (.exit 1))
      sampleRequest).1.trace = ["launch.preparing", "artifact.stale_removed", "launch.spawning",
        "launch.arguments", "launch.completed", "launch.no_coverage"] := by decide +kernel
  obtain ⟨entries, htrace, haccount⟩ := launch_is_accounted sampleSetting
    (fun _ => .relaunch sampleRequest idleLauncher fun _ => .ends (.exit 1)) sampleRequest
    (Session.start (writeSample sampleFiles)) rfl
  rw [htrace] at hevents
  change eventsOf entries = _ at hevents
  refine ⟨entries, haccount, hevents, haccount.removal.mp ?_⟩
  rw [hevents]
  decide

end TestImpact.Proofs
