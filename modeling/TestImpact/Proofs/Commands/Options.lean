import TestImpact.CommandLine.Values
import TestImpact.Proofs.Results

/-!
# The same options for two commands

The words of a command give options of that command alone, and the words are in order if each of its
options is, whatever the order in which they are taken. So two commands that share options agree on
these if the words give them the same values.
-/

namespace TestImpact.Proofs
open CommandLine

variable {c : CommandSpec} {mixed : Bool} {word : String} {words : List String}
  {read read' : ReadWords} {fs : Files} {cwd : Location} {o : OptionSpec}

/-! ### The options that words give -/

/-- Whether all options that a word asks for are those of a command. -/
def AsksFor (c : CommandSpec) (found : OptionWord) : Prop :=
  (∀ g ∈ found.given, g.option ∈ c.options) ∧ ∀ p ∈ found.pending, p.1 ∈ c.options

lemma mem_of_option? {name : String} (h : c.option? name = some o) : o ∈ c.options :=
  List.mem_of_find?_eq_some h

lemma readShort_asksFor {chars : List Char} {found : OptionWord}
    (h : readShort c chars = .ok found) : AsksFor c found := by
  induction chars generalizing found with
  | nil =>
    obtain rfl := Except.ok.inj h
    simp [AsksFor]
  | cons ch chars ih =>
    rw [readShort] at h
    split at h
    · simp at h
    rename_i o hname
    have ho := mem_of_option? hname
    split at h
    · split at h
      · obtain rfl := Except.ok.inj h
        simp [AsksFor, ho]
      · obtain rfl := Except.ok.inj h
        simp [AsksFor, ho]
    · obtain ⟨next, hnext, h⟩ := bind_eq_ok.mp h
      obtain rfl := Except.ok.inj h
      obtain ⟨hgiven, hpending⟩ := ih hnext
      refine ⟨fun g hg => ?_, hpending⟩
      rcases List.mem_cons.mp hg with rfl | hg
      · exact ho
      · exact hgiven g hg

lemma readOptionWord_asksFor {found : OptionWord} (h : readOptionWord c word = .ok found) :
    AsksFor c found := by
  have hlong : ∀ {name : String} {o : OptionSpec}, longOption? c name = some o → o ∈ c.options := by
    intro name o ho
    rw [longOption?] at ho
    split at ho
    · simp at ho
    · exact mem_of_option? ho
  rw [readOptionWord] at h
  generalize nameAndValue word = cut at h
  obtain ⟨name, value⟩ := cut
  dsimp only at h
  split at h
  · rename_i o ho
    have hmem := hlong ho
    split at h
    · obtain rfl := Except.ok.inj h
      simp [AsksFor, hmem]
    · obtain rfl := Except.ok.inj h
      simp [AsksFor, hmem]
    · obtain rfl := Except.ok.inj h
      simp [AsksFor, hmem]
    · simp at h
  · split at h
    · simp at h
    · exact readShort_asksFor h
    · obtain rfl := Except.ok.inj h
      simp [AsksFor]

lemma readWords_options (h : readWords c mixed words = .ok read) :
    ∀ g ∈ read.given, g.option ∈ c.options := by
  fun_induction readWords c mixed words generalizing read with
  | case1 =>
    obtain rfl := Except.ok.inj h
    simp
  | case2 =>
    obtain rfl := Except.ok.inj h
    simp
  | case3 => simp at h
  | case4 word words _ _ given hword ih =>
    obtain ⟨next, hnext, h⟩ := bind_eq_ok.mp h
    obtain rfl := Except.ok.inj h
    intro g hg
    rcases List.mem_append.mp hg with hg | hg
    · exact (readOptionWord_asksFor hword).1 g hg
    · exact ih hnext g hg
  | case5 => simp at h
  | case6 word _ _ given o name hword value words ih =>
    obtain ⟨next, hnext, h⟩ := bind_eq_ok.mp h
    obtain rfl := Except.ok.inj h
    obtain ⟨hgiven, hpending⟩ := readOptionWord_asksFor hword
    intro g hg
    rcases List.mem_append.mp hg with hg | hg
    · exact hgiven g hg
    · rcases List.mem_cons.mp hg with rfl | hg
      · exact hpending (o, name) rfl
      · exact ih hnext g hg
  | case7 word words _ _ _ ih =>
    obtain ⟨next, hnext, h⟩ := bind_eq_ok.mp h
    obtain rfl := Except.ok.inj h
    intro g hg
    exact ih hnext g hg
  | case8 =>
    obtain rfl := Except.ok.inj h
    simp

/-! ### Words in order -/

lemma forM_eq_ok {α ε : Type} {f : α → Except ε Unit} {as : List α} :
    as.forM f = .ok () ↔ ∀ a ∈ as, f a = .ok () := by
  induction as with
  | nil => simp [pure, Except.pure]
  | cons a as ih =>
    change f a >>= (fun _ => as.forM f) = .ok () ↔ _
    constructor
    · intro h
      obtain ⟨_, ha, has⟩ := bind_eq_ok.mp h
      simpa using ⟨ha, ih.mp has⟩
    · intro h
      obtain ⟨ha, has⟩ := List.forall_mem_cons.mp h
      exact bind_eq_ok.mpr ⟨(), ha, ih.mpr has⟩

/-- Words are in order if each option of the command is. -/
lemma checkWords_eq_ok (h : readWords c mixed words = .ok read) :
    checkWords fs cwd c read = .ok () ↔ ∀ o ∈ c.options, checkOption fs cwd read o = .ok () := by
  have hmem : ∀ o, o ∈ read.order c ↔ o ∈ c.options := by
    intro o
    have hgiven : o ∈ read.given.map (·.option) → o ∈ c.options := by
      intro ho
      obtain ⟨g, hg, rfl⟩ := List.mem_map.mp ho
      exact readWords_options h g hg
    simp only [ReadWords.order, List.partition_eq_filter_filter, List.mem_append, List.mem_filter,
      List.mem_eraseDups, Bool.not_eq_true']
    constructor
    · rintro ((⟨ho, -⟩ | ⟨ho, -⟩) | ⟨ho, -⟩)
      · exact hgiven ho
      · exact hgiven ho
      · exact ho
    · intro ho
      by_cases hin : o ∈ read.given.map (·.option)
      · cases hfirst : o.kind.actsFirst with
        | true => exact .inl (.inl ⟨hin, rfl⟩)
        | false => exact .inl (.inr ⟨hin, by simp [hfirst]⟩)
      · refine .inr ⟨ho, ?_⟩
        simpa [List.mem_eraseDups] using hin
  rw [checkWords, forM_eq_ok]
  simp only [hmem]

lemma checkOption_congr (h : read'.values o.name = read.values o.name) :
    checkOption fs cwd read' o = checkOption fs cwd read o := by
  simp only [checkOption, h]

/-! ### Shared options -/

/-- Words of `tia run` and of `tia args` that say the same by the options that both have. The run may
have a time limit of its own, if that can be read. -/
structure SameOptions (read read' : ReadWords) : Prop where
  values : ∀ o ∈ OptionSpec.ofLaunch ++ [.showHelp], read'.values o.name = read.values o.name
  rest : read'.rest = read.rest
  timeout : ∀ value ∈ OptionSpec.timeout.effective (read.values OptionSpec.timeout.name),
    (Number.looseFloat? value.toList).isSome

variable {words' : List String}

/-- If the words of one command are in order, those of the other one are. -/
lemma SameOptions.checkWords_iff (h : SameOptions read read')
    (hread : readWords Command.run.spec true words = .ok read)
    (hread' : readWords Command.args.spec true words' = .ok read') :
    checkWords fs cwd Command.run.spec read = .ok () ↔
      checkWords fs cwd Command.args.spec read' = .ok () := by
  rw [checkWords_eq_ok hread, checkWords_eq_ok hread']
  have hshared : ∀ o ∈ OptionSpec.ofLaunch ++ [.showHelp],
      checkOption fs cwd read' o = checkOption fs cwd read o :=
    fun o ho => checkOption_congr (h.values o ho)
  have htimeout : checkOption fs cwd read .timeout = .ok () := by
    change (OptionSpec.timeout.effective (read.values OptionSpec.timeout.name)).forM
      (checkValue fs cwd .timeout) = .ok ()
    rw [forM_eq_ok]
    intro value hvalue
    exact if_pos (h.timeout value hvalue)
  have hjson : checkOption fs cwd read' .json = .ok () := by
    change (OptionSpec.json.effective (read'.values OptionSpec.json.name)).forM
      (checkValue fs cwd .json) = .ok ()
    rw [forM_eq_ok]
    intro value _
    rfl
  constructor
  · intro hall o ho
    rcases List.mem_append.mp ho with hlaunch | hother
    · rw [hshared o (List.mem_append_left _ hlaunch)]
      exact hall o (List.mem_append_left _ hlaunch)
    · obtain rfl | rfl : o = .json ∨ o = .showHelp := by simpa using hother
      · exact hjson
      · rw [hshared .showHelp (by simp)]
        exact hall .showHelp (by simp [Command.spec])
  · intro hall o ho
    rcases List.mem_append.mp ho with hlaunch | hother
    · rw [← hshared o (List.mem_append_left _ hlaunch)]
      exact hall o (List.mem_append_left _ hlaunch)
    · obtain rfl | rfl : o = .timeout ∨ o = .showHelp := by simpa using hother
      · exact htimeout
      · rw [← hshared .showHelp (by simp)]
        exact hall .showHelp (by simp [Command.spec])

/-- What the words say about a launch, but for the time limit and the form of what is shown. -/
lemma SameOptions.ofWords_eq (h : SameOptions read read') :
    LaunchOptions.ofWords read =
      { LaunchOptions.ofWords read' with
        timeout := (LaunchOptions.ofWords read).timeout
        asJson := (LaunchOptions.ofWords read).asJson } := by
  have hvalues : ∀ o ∈ OptionSpec.ofLaunch, read'.values o.name = read.values o.name :=
    fun o ho => h.values o (List.mem_append_left _ ho)
  simp only [OptionSpec.ofLaunch, List.forall_mem_cons] at hvalues
  simp only [LaunchOptions.ofWords, hvalues]

end TestImpact.Proofs
