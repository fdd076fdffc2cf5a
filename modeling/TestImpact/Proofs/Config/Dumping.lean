import Mathlib.Data.List.Nodup
import TestImpact.Config.Load
import TestImpact.Proofs.Config.Lax
import TestImpact.Proofs.Paths.Texts
import TestImpact.Proofs.Results

/-!
# Dumping and checking

Checking turns near values into what they stand for: numbers in texts into numbers, words into truth
values, a tilde into a home directory. What comes out needs no such turn any more: the dump of an
accepted configuration is accepted as the same configuration, whatever the home directories are by
then. Of the library that checks single values this takes its laws alone.
-/

namespace TestImpact.Proofs
open Config Data

variable {lib : Library} {accounts : Accounts} {α β : Type} {x : Checked α} {y : Checked (α → β)}
  {a : α} {f : α → β} {name s : String} {value raw : Data} {entries : List (Data × Data)}
  {default : α} {check : Data → Checked α} {env upper : Environment} {o : LogOutput} {c : Config}

/-! ### Single values -/

lemma accepted_map (h : x = .ok a) (f : α → β) : f <$> x = .ok (f a) :=
  map_eq_accepted.mpr ⟨a, h, rfl⟩

lemma accepted_seq (hy : y = .ok f) (hx : x = .ok a) : y <*> x = .ok (f a) :=
  seq_eq_accepted.mpr ⟨f, a, hy, hx, rfl⟩

/-- The entries of a dump. -/
def entriesOfFields (fields : List (String × Data)) : List (Data × Data) :=
  fields.map fun (name, value) => (.text name, value)

lemma field?_entriesOfFields (name : String) (fields : List (String × Data)) :
    field? name (entriesOfFields fields) = fields.lookup name := by
  induction fields with
  | nil => rfl
  | cons field fields ih =>
    obtain ⟨other, value⟩ := field
    change lookup? _ ((.text other, value) :: entriesOfFields fields) = _
    rw [lookup?, same, List.lookup_cons, ← ih, BEq.comm]
    cases name == other <;> rfl

lemma accepted_field {fields : List (String × Data)} (hfound : fields.lookup name = some value)
    (h : check value = .ok a) :
    Checked.field (entriesOfFields fields) name default check = .ok a := by
  rw [Checked.field, field?_entriesOfFields, hfound]
  exact within_eq_accepted.mpr h

lemma checkSection_ofFields (hlib : lib.Laws) (name : String)
    (section_ : List (Data × Data) → Checked α) (fields : List (String × Data)) :
    checkSection lib name section_ (.ofFields fields) = section_ (entriesOfFields fields) := by
  rw [checkSection, ofFields]
  change (lib.fields name (.map (entriesOfFields fields))).andThen section_ = _
  rw [hlib.fields_map]
  rfl

/-- A value that may be absent is taken if it is there. -/
lemma checkOptional_some (hvalue : value ≠ .null) (h : check value = .ok a) :
    checkOptional check value = .ok (some a) := by
  cases value with
  | null => exact absurd rfl hvalue
  | _ => exact accepted_map h some

lemma checkOptional_text (hlib : lib.Laws) (value : Option String) :
    checkOptional lib.text (.ofOption value) = .ok value := by
  cases value with
  | none => rfl
  | some s => exact checkOptional_some Data.noConfusion (hlib.text_text s)

/-- A choice is found again by its name, if no other one has that name. -/
lemma checkChoice_name (hlib : lib.Laws) {choices : List α} {write : α → String}
    (hmem : a ∈ choices) (honce : ∀ other ∈ choices, write other = write a → other = a) :
    checkChoice lib choices write (.text (write a)) = .ok a := by
  refine andThen_eq_accepted.mpr
    ⟨write a, hlib.word_text _ _ (List.mem_map_of_mem hmem), ?_⟩
  cases hfound : choices.find? (fun other => write other = write a) with
  | none =>
    have hnone := List.find?_eq_none.mp hfound a hmem
    simp at hnone
  | some other =>
    have hsame : write other = write a := by simpa using List.find?_some hfound
    exact congrArg Checked.ok (honce other (List.mem_of_find?_eq_some hfound) hsame)

lemma items_map {write : α → Data} {values : List α} (h : ∀ a ∈ values, check (write a) = .ok a)
    (n : Nat) : Checked.items check n (values.map write) = .ok values := by
  induction values generalizing n with
  | nil => rfl
  | cons a values ih =>
    obtain ⟨hfirst, hrest⟩ := List.forall_mem_cons.mp h
    exact accepted_seq (accepted_map (within_eq_accepted.mpr hfirst) _) (ih hrest (n + 1))

lemma checkList_map (hlib : lib.Laws) {write : α → Data} {values : List α}
    (h : ∀ a ∈ values, check (write a) = .ok a) :
    checkList lib check (.list (values.map write)) = .ok values :=
  andThen_eq_accepted.mpr ⟨_, hlib.items_list _, items_map h 0⟩

lemma checkList_ofTexts (hlib : lib.Laws) (texts : List String) :
    checkList lib lib.text (.ofTexts texts) = .ok texts :=
  checkList_map hlib fun s _ => hlib.text_text s

/-! ### Destinations -/

/-- A stream or a file with an absolute path. -/
def IsDestination (s : String) : Prop :=
  s ∈ streams ∨ ∃ p : Path, p.isAbsolute = true ∧ s = p.toText

lemma isDestination_of_check (h : checkDestination lib accounts value = .ok s) :
    IsDestination s := by
  obtain ⟨text, -, h⟩ := andThen_eq_accepted.mp h
  split at h
  · rename_i hstream
    obtain rfl := Checked.ok.inj h
    exact .inl (List.contains_iff_mem.mp hstream)
  · split at h
    · cases h
    · cases h
    · rename_i p hexpanded
      split at h
      · rename_i habsolute
        exact .inr ⟨p, habsolute, (Checked.ok.inj h).symm⟩
      · cases h

/-- Only a relative path can name a home directory. -/
lemma expandHome_of_absolute {p : Path} (h : p.isAbsolute = true) :
    expandHome accounts p = .ok p := by
  unfold expandHome
  cases hanchor : p.anchor with
  | relative =>
    rw [Path.isAbsolute, hanchor] at h
    cases h
  | _ => rfl

lemma checkDestination_text (hlib : lib.Laws) (h : IsDestination s) :
    checkDestination lib accounts (.text s) = .ok s := by
  refine andThen_eq_accepted.mpr ⟨s, hlib.text_text s, ?_⟩
  by_cases hstream : streams.contains s = true
  · rw [if_pos hstream]
  · rw [if_neg hstream]
    rcases h with hmem | ⟨p, habsolute, rfl⟩
    · exact absurd (List.contains_iff_mem.mpr hmem) hstream
    · rw [ofText_toText, expandHome_of_absolute habsolute]
      exact if_pos habsolute

/-! ### Variables -/

lemma set_of_not_mem (h : name ∉ env.map Prod.fst) (value : String) :
    env.set name value = env ++ [(name, value)] := by
  induction env with
  | nil => rfl
  | cons variable_ env ih =>
    obtain ⟨hfirst, hrest⟩ := not_or.mp (mt List.mem_cons.mpr h)
    rw [Environment.set, if_neg (Ne.symm hfirst), ih hrest]
    rfl

lemma set_names_of_mem (h : name ∈ env.map Prod.fst) (value : String) :
    (env.set name value).map Prod.fst = env.map Prod.fst := by
  induction env with
  | nil => cases h
  | cons variable_ env ih =>
    rw [Environment.set]
    split
    · rfl
    · rename_i hother
      have hrest := (List.mem_cons.mp h).resolve_left (Ne.symm hother)
      exact congrArg (variable_.1 :: ·) (ih hrest)

lemma set_names_nodup (h : (env.map Prod.fst).Nodup) (name value : String) :
    ((env.set name value).map Prod.fst).Nodup := by
  by_cases hmem : name ∈ env.map Prod.fst
  · rw [set_names_of_mem hmem]
    exact h
  · rw [set_of_not_mem hmem, List.map_append, List.nodup_append]
    refine ⟨h, List.nodup_singleton name, fun n hn m hm hsame => ?_⟩
    rw [hsame, List.mem_singleton.mp hm] at hn
    exact hmem hn

lemma overlay_names_nodup (h : (env.map Prod.fst).Nodup) (upper : Environment) :
    ((env.overlay upper).map Prod.fst).Nodup := by
  induction upper generalizing env with
  | nil => exact h
  | cons variable_ upper ih => exact ih (set_names_nodup h variable_.1 variable_.2)

lemma overlay_of_nodup (h : (env.map Prod.fst ++ upper.map Prod.fst).Nodup) :
    env.overlay upper = env ++ upper := by
  induction upper generalizing env with
  | nil => exact (List.append_nil env).symm
  | cons variable_ upper ih =>
    have hnew : variable_.1 ∉ env.map Prod.fst := fun hmem =>
      (List.nodup_append.mp h).2.2 _ hmem _ List.mem_cons_self rfl
    change (env.set variable_.1 variable_.2).overlay upper = _
    rw [set_of_not_mem hnew, ih, List.append_assoc]
    · rfl
    · rw [List.map_append, List.append_assoc]
      exact h

lemma checkVariables_texts (hlib : lib.Laws) (env : Environment) :
    checkVariables lib (env.map fun v => (.text v.1, .text v.2)) = .ok env := by
  induction env with
  | nil => rfl
  | cons variable_ env ih =>
    refine accepted_seq (accepted_map (accepted_seq (accepted_map ?name _) ?value) _) ih
    case name => exact within_eq_accepted.mpr (within_eq_accepted.mpr (hlib.text_text _))
    case value => exact within_eq_accepted.mpr (hlib.text_text _)

lemma checkEnvironment_ofFields (hlib : lib.Laws) (h : (env.map Prod.fst).Nodup) :
    checkEnvironment lib (.ofFields (env.map fun v => (v.1, .text v.2))) = .ok env := by
  have hentries : Data.ofFields (env.map fun v => (v.1, .text v.2)) =
      .map (env.map fun v => (.text v.1, .text v.2)) := by
    rw [ofFields, List.map_map]
    rfl
  have hnames : (([] : Environment).map Prod.fst ++ env.map Prod.fst).Nodup := h
  rw [hentries]
  refine andThen_eq_accepted.mpr ⟨_, hlib.entries_map _, ?_⟩
  rw [accepted_map (checkVariables_texts hlib env), overlay_of_nodup hnames, List.nil_append]

lemma names_nodup_of_checkEnvironment (h : checkEnvironment lib value = .ok env) :
    (env.map Prod.fst).Nodup := by
  obtain ⟨entries, -, h⟩ := andThen_eq_accepted.mp h
  obtain ⟨given, -, rfl⟩ := map_eq_accepted.mp h
  have hnone : (([] : Environment).map Prod.fst).Nodup := List.nodup_nil
  exact overlay_names_nodup hnone given

/-! ### Sections -/

lemma checkLevel_name (hlib : lib.Laws) (level : LogLevel) :
    checkLevel lib (.text level.name) = .ok level :=
  checkChoice_name hlib (by cases level <;> decide) (by cases level <;> decide)

lemma checkFormat_name (hlib : lib.Laws) (format : LogFormat) :
    checkChoice lib [LogFormat.json, LogFormat.console] LogFormat.name (.text format.name) =
      .ok format :=
  checkChoice_name hlib (by cases format <;> decide) (by cases format <;> decide)

lemma checkMode_name (hlib : lib.Laws) (mode : AgentMode) :
    checkChoice lib [AgentMode.local, AgentMode.remote] AgentMode.name (.text mode.name) =
      .ok mode :=
  checkChoice_name hlib (by cases mode <;> decide) (by cases mode <;> decide)

lemma checkOutput_dump (hlib : lib.Laws) (h : IsDestination o.destination) :
    checkOutput lib accounts o.dump = .ok o := by
  rw [checkOutput, LogOutput.dump, checkSection_ofFields hlib]
  cases o with
  | mk format destination level =>
    refine accepted_seq (accepted_seq (accepted_map ?format _) ?destination) ?level
    case format => exact accepted_field rfl (checkFormat_name hlib format)
    case destination => exact accepted_field rfl (checkDestination_text hlib h)
    case level =>
      refine accepted_field rfl ?_
      cases level with
      | none => rfl
      | some level => exact checkOptional_some Data.noConfusion (checkLevel_name hlib level)

lemma checkLogging_dump (hlib : lib.Laws) {logging : LoggingConfig}
    (h : ∀ o ∈ logging.outputs, IsDestination o.destination) :
    checkLogging lib accounts logging.dump = .ok logging := by
  rw [checkLogging, LoggingConfig.dump, checkSection_ofFields hlib]
  cases logging with
  | mk level outputs =>
    refine accepted_seq (accepted_map ?level _) ?outputs
    case level => exact accepted_field rfl (checkLevel_name hlib level)
    case outputs =>
      exact accepted_field rfl (checkList_map hlib fun o ho => checkOutput_dump hlib (h o ho))

lemma checkServer_dump (hlib : lib.Laws) (server : ServerConfig) :
    checkServer lib server.dump = .ok server := by
  rw [checkServer, ServerConfig.dump, checkSection_ofFields hlib]
  cases server with
  | mk url project user accessToken =>
    refine accepted_seq (accepted_seq (accepted_seq (accepted_map ?url _) ?project) ?user) ?token
    case url => exact accepted_field rfl (checkOptional_text hlib url)
    case project => exact accepted_field rfl (checkOptional_text hlib project)
    case user => exact accepted_field rfl (checkOptional_text hlib user)
    case token => exact accepted_field rfl (checkOptional_text hlib accessToken)

lemma checkAgent_dump (hlib : lib.Laws) (agent : AgentConfig) :
    checkAgent lib agent.dump = .ok agent := by
  rw [checkAgent, AgentConfig.dump, checkSection_ofFields hlib]
  cases agent with
  | mk mode url controlPort jar includes excludes dumpClasses =>
    refine accepted_seq (accepted_seq (accepted_seq (accepted_seq (accepted_seq (accepted_seq
      (accepted_map ?mode _) ?url) ?port) ?jar) ?includes) ?excludes) ?dumpClasses
    case mode => exact accepted_field rfl (checkMode_name hlib mode)
    case url => exact accepted_field rfl (checkOptional_text hlib url)
    case port => exact accepted_field rfl (hlib.int_int controlPort)
    case jar =>
      refine accepted_field rfl ?_
      cases jar with
      | none => rfl
      | some jar => exact checkOptional_some Data.noConfusion (hlib.path_path jar)
    case includes => exact accepted_field rfl (checkList_ofTexts hlib includes)
    case excludes => exact accepted_field rfl (checkList_ofTexts hlib excludes)
    case dumpClasses => exact accepted_field rfl (hlib.bool_bool dumpClasses)

lemma checkExecutor_dump (hlib : lib.Laws) {executor : ExecutorConfig}
    (h : (executor.env.map Prod.fst).Nodup) : checkExecutor lib executor.dump = .ok executor := by
  rw [checkExecutor, ExecutorConfig.dump, checkSection_ofFields hlib]
  cases executor with
  | mk java mainClass classpath jvmArgs env =>
    refine accepted_seq (accepted_seq (accepted_seq (accepted_seq (accepted_map ?java _) ?mainClass)
      ?classpath) ?jvmArgs) ?env
    case java => exact accepted_field rfl (hlib.text_text java)
    case mainClass => exact accepted_field rfl (hlib.text_text mainClass)
    case classpath =>
      exact accepted_field rfl (checkList_map hlib fun p _ => hlib.path_path p)
    case jvmArgs => exact accepted_field rfl (checkList_ofTexts hlib jvmArgs)
    case env => exact accepted_field rfl (checkEnvironment_ofFields hlib h)

lemma checkReport_dump (hlib : lib.Laws) (report : ReportConfig) :
    checkReport lib report.dump = .ok report := by
  rw [checkReport, ReportConfig.dump, checkSection_ofFields hlib]
  cases report with
  | mk partitionName reportsSubdir artifactSubdir dumpSubdir =>
    refine accepted_seq (accepted_seq (accepted_seq (accepted_map ?partitionName _) ?reports)
      ?artifact) ?dump
    case partitionName => exact accepted_field rfl (hlib.text_text partitionName)
    case reports => exact accepted_field rfl (hlib.text_text reportsSubdir)
    case artifact => exact accepted_field rfl (hlib.text_text artifactSubdir)
    case dump => exact accepted_field rfl (hlib.text_text dumpSubdir)

/-! ### Configurations -/

/-- A configuration that needs no turn any more: its records go to streams and absolute paths, and
its variables have different names. -/
structure Steady (c : Config) : Prop where
  destinations : ∀ o ∈ c.logging.outputs, IsDestination o.destination
  names : (c.executor.env.map Prod.fst).Nodup

lemma Steady.check_dump (h : Steady c) (hlib : lib.Laws) (accounts : Accounts) :
    Config.check lib accounts (lib.dump c) = .ok c := by
  rw [hlib.dump_eq, Config.check, Config.dump, checkSection_ofFields hlib]
  cases c with
  | mk logging server agent executor report =>
    refine accepted_seq (accepted_seq (accepted_seq (accepted_seq (accepted_map ?logging _) ?server)
      ?agent) ?executor) ?report
    case logging => exact accepted_field rfl (checkLogging_dump hlib h.destinations)
    case server => exact accepted_field rfl (checkServer_dump hlib server)
    case agent => exact accepted_field rfl (checkAgent_dump hlib agent)
    case executor => exact accepted_field rfl (checkExecutor_dump hlib h.names)
    case report => exact accepted_field rfl (checkReport_dump hlib report)

lemma isDestination_default : IsDestination LogOutput.default.destination := .inl (by decide)

lemma isDestination_of_checkOutput (h : checkOutput lib accounts value = .ok o) :
    IsDestination o.destination := by
  obtain ⟨entries, hfields⟩ := checkSection_eq_accepted h
  obtain ⟨_, level, h₁, -, rfl⟩ := seq_eq_accepted.mp hfields
  obtain ⟨_, destination, h₂, hdestination, rfl⟩ := seq_eq_accepted.mp h₁
  obtain ⟨format, -, rfl⟩ := map_eq_accepted.mp h₂
  rcases field_eq_accepted hdestination with rfl | ⟨given, hgiven⟩
  · exact isDestination_default
  · exact isDestination_of_check hgiven

lemma isDestination_of_checkLogging {logging : LoggingConfig}
    (h : checkLogging lib accounts value = .ok logging) :
    ∀ o ∈ logging.outputs, IsDestination o.destination := by
  obtain ⟨entries, hfields⟩ := checkSection_eq_accepted h
  obtain ⟨_, outputs, h₁, houtputs, rfl⟩ := seq_eq_accepted.mp hfields
  obtain ⟨level, -, rfl⟩ := map_eq_accepted.mp h₁
  intro o ho
  rcases field_eq_accepted houtputs with rfl | ⟨given, hgiven⟩
  · obtain rfl := List.mem_singleton.mp ho
    exact isDestination_default
  · obtain ⟨item, hitem⟩ := of_mem_checkList hgiven ho
    exact isDestination_of_checkOutput hitem

lemma names_nodup_of_checkExecutor {executor : ExecutorConfig}
    (h : checkExecutor lib value = .ok executor) : (executor.env.map Prod.fst).Nodup := by
  obtain ⟨entries, hfields⟩ := checkSection_eq_accepted h
  obtain ⟨_, env, h₁, henv, rfl⟩ := seq_eq_accepted.mp hfields
  obtain ⟨_, jvmArgs, h₂, -, rfl⟩ := seq_eq_accepted.mp h₁
  obtain ⟨_, classpath, h₃, -, rfl⟩ := seq_eq_accepted.mp h₂
  obtain ⟨_, mainClass, h₄, -, rfl⟩ := seq_eq_accepted.mp h₃
  obtain ⟨java, -, rfl⟩ := map_eq_accepted.mp h₄
  rcases field_eq_accepted henv with rfl | ⟨given, hgiven⟩
  · exact List.nodup_nil
  · exact names_nodup_of_checkEnvironment hgiven

lemma steady_of_checkSections (h : checkSections lib accounts entries = .ok c) : Steady c := by
  obtain ⟨_, report, h₁, -, rfl⟩ := seq_eq_accepted.mp h
  obtain ⟨_, executor, h₂, hexecutor, rfl⟩ := seq_eq_accepted.mp h₁
  obtain ⟨_, agent, h₃, -, rfl⟩ := seq_eq_accepted.mp h₂
  obtain ⟨_, server, h₄, -, rfl⟩ := seq_eq_accepted.mp h₃
  obtain ⟨logging, hlogging, rfl⟩ := map_eq_accepted.mp h₄
  refine ⟨?_, ?_⟩
  · rcases field_eq_accepted hlogging with rfl | ⟨given, hgiven⟩
    · intro o ho
      obtain rfl := List.mem_singleton.mp ho
      exact isDestination_default
    · exact isDestination_of_checkLogging hgiven
  · rcases field_eq_accepted hexecutor with rfl | ⟨given, hgiven⟩
    · exact List.nodup_nil
    · exact names_nodup_of_checkExecutor hgiven

lemma steady_of_check (h : Config.check lib accounts raw = .ok c) : Steady c := by
  obtain ⟨entries, hsections⟩ := checkSection_eq_accepted h
  exact steady_of_checkSections hsections

lemma steady_of_checkStrict (h : checkStrict lib accounts entries = .ok c) : Steady c := by
  obtain ⟨_, _, h₁, -, rfl⟩ := seq_eq_accepted.mp h
  obtain ⟨accepted, hsections, rfl⟩ := map_eq_accepted.mp h₁
  exact steady_of_checkSections hsections

/-! ### Settings -/

/-- Settings under names that are texts are judged by the first of the two checks alone. -/
lemma judge_eq (reader : Reader) (hlib : reader.library.Laws) (home : Option String)
    (entries : List (Data × Data)) :
    judge reader home entries = if entries.all fun entry => isText entry.1
      then firstIssue reader.digitLimit
        (checkStrict reader.library (reader.accounts.withHome home) entries)
      else .error (.fault .nameNotText) := by
  unfold judge
  dsimp only
  cases entries.all fun entry => isText entry.1 with
  | false => rfl
  | true =>
    cases hstrict : checkStrict reader.library (reader.accounts.withHome home) entries with
    | ok c =>
      have hagain := (steady_of_checkStrict hstrict).check_dump hlib (reader.accounts.withHome home)
      change Failure.ofChecked (Config.check reader.library (reader.accounts.withHome home)
        (reader.library.dump c)) = .ok c
      rw [hagain]
      rfl
    | refused issues => cases issues <;> rfl
    | fault f => rfl

/-- The dump of a configuration that was accepted is accepted as the same configuration, and only
steady configurations come out of a check of their own dump. So the second check of settings that
were accepted never fails and never changes a value. -/
theorem dump_is_accepted_again (lib : Library) (hlib : lib.Laws) (accounts : Accounts) :
    (∀ (raw : Data) (c : Config), Config.check lib accounts raw = .ok c →
      Config.check lib accounts (lib.dump c) = .ok c) ∧
    (∀ c : Config, Config.check lib accounts (lib.dump c) = .ok c ↔ Steady c) ∧
    ∀ (limit : Number.DigitLimit) (home : Option String) (entries : List (Data × Data)),
      (∀ c, checkStrict lib (accounts.withHome home) entries = .ok c →
        Config.check lib (accounts.withHome home) (lib.dump c) = .ok c) ∧
      judge ⟨lib, accounts, limit⟩ home entries = if entries.all fun entry => isText entry.1
        then firstIssue limit (checkStrict lib (accounts.withHome home) entries)
        else .error (.fault .nameNotText) := by
  refine ⟨fun raw c h => ?_, fun c => ⟨steady_of_check, fun h => h.check_dump hlib accounts⟩,
    fun limit home entries => ⟨fun c h => ?_, judge_eq ⟨lib, accounts, limit⟩ hlib home entries⟩⟩
  · exact (steady_of_check h).check_dump hlib accounts
  · exact (steady_of_checkStrict h).check_dump hlib (accounts.withHome home)

/-- Settings in which a number, a truth value and a destination stand as near values. -/
def sampleRaw : List (Data × Data) :=
  [(.text "logging", .map [(.text "outputs",
      .tuple [.map [(.text "destination", .text "~/a/./b")]])]),
    (.text "agent", .map [(.text "port", .text " 8_124.0"), (.text "dump_classes", .text "Yes"),
      (.text "jar", .text "lib//agent.jar")]),
    (.text "executor", .map [(.text "env",
      .map [(.text "A", .bytes [49]), (.bytes [65], .text "2")])])]

/-- A system in which the program is run by an account with a home directory. -/
def sampleAccounts : Accounts := ⟨some "/home/u/", fun _ => none⟩

/-- What was turned by the first check is kept by the second, whatever the home directories are by
then. -/
theorem sample_dump_is_accepted_again :
    ∃ c, Config.check .lax sampleAccounts (.map sampleRaw) = .ok c ∧
      Config.check .lax sampleAccounts c.dump = .ok c ∧
      Config.check .lax ⟨none, fun _ => none⟩ c.dump = .ok c ∧
      judge ⟨.lax, sampleAccounts, .standard⟩ none sampleRaw = .ok c ∧
      c.agent.controlPort = 8124 ∧ c.agent.dumpClasses = true ∧ c.executor.env = [("A", "2")] ∧
      c.logging.outputs.map (·.destination) = ["/home/u/a/b"] := by
  obtain ⟨hraw, hsteady, hsettings⟩ := dump_is_accepted_again .lax lax_laws sampleAccounts
  obtain ⟨-, helsewhere, -⟩ := dump_is_accepted_again .lax lax_laws ⟨none, fun _ => none⟩
  have htest : (accepted? (Config.check .lax sampleAccounts (.map sampleRaw))).any (fun c =>
      accepted? (checkStrict .lax (sampleAccounts.withHome none) sampleRaw) = some c ∧
        c.agent.controlPort = 8124 ∧ c.agent.dumpClasses = true ∧ c.executor.env = [("A", "2")] ∧
        c.logging.outputs.map (·.destination) = ["/home/u/a/b"]) = true := by decide +kernel
  obtain ⟨c, hc, hholds⟩ := (Option.any_eq_true _ _).mp htest
  obtain ⟨hstrict, hvalues⟩ := of_decide_eq_true hholds
  have hagain := hraw _ _ (eq_of_accepted? hc)
  refine ⟨c, eq_of_accepted? hc, hagain, ?_, ?_, hvalues⟩
  · exact (helsewhere c).mpr ((hsteady c).mp hagain)
  · rw [(hsettings .standard none sampleRaw).2, eq_of_accepted? hstrict]
    rfl

end TestImpact.Proofs
