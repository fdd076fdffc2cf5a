import Mathlib.Logic.ExistsUnique
import Mathlib.Tactic.IntervalCases
import TestImpact.Config.Integer
import TestImpact.Proofs.Directive.Building
import TestImpact.Proofs.Requirements

/-!
# The control channel

The executor is told by an argument where it reaches the agent, and an attached agent is told by the
last option of its directive which port to open. Both texts are written apart from each other, between
globs and paths of any form, and both name the same port.
-/

namespace TestImpact.Proofs
open Config Text

variable {sep : Char} {pieces : List (List Char)} {last : List Char} {jar : String} {n : Int}
  {options : List (String × String)} {config : Config} {around : Surroundings}
  {request : LaunchRequest} {plan : Plan}

/-! ### Decimal texts -/

lemma isAsciiDigit_of_isDigit {c : Char} (h : c.isDigit = true) : isAsciiDigit c = true := by
  unfold Char.isDigit at h
  unfold isAsciiDigit
  rw [Bool.and_eq_true, decide_eq_true_eq, decide_eq_true_eq] at h ⊢
  exact h

lemma isAsciiDigit_of_mem_toDigits {m : Nat} {c : Char} (h : c ∈ Nat.toDigits 10 m) :
    isAsciiDigit c = true :=
  isAsciiDigit_of_isDigit (Nat.isDigit_of_mem_toDigits (by omega) (by omega) h)

lemma natOfDigits_toDigits (m : Nat) : natOfDigits (Nat.toDigits 10 m) = m := by
  have hread : Nat.ofDigitChars 10 (Nat.toDigits 10 m) 0 = m := Nat.ofDigitChars_ten_toDigits
  exact hread

/-- A number that is not zero is written without a zero in front. -/
lemma head?_toDigits {m : Nat} (h : 0 < m) : (Nat.toDigits 10 m).head? ≠ some '0' := by
  induction m using Nat.strong_induction_on with
  | _ m ih =>
    by_cases hsmall : m < 10
    · rw [Nat.toDigits_of_lt_base hsmall]
      intro hzero
      have hdigit : m.digitChar = '0' := Option.some.inj hzero
      interval_cases m <;> exact absurd hdigit (by decide)
    · rw [Nat.toDigits_of_base_le (by omega) (by omega)]
      have hrest := ih (m / 10) (by omega) (by omega)
      cases hdigits : Nat.toDigits 10 (m / 10) with
      | nil => exact absurd hdigits Nat.toDigits_ne_nil
      | cons c digits =>
        rw [hdigits] at hrest
        exact hrest

lemma plainInt_toDigits {m : Nat} (h : 0 < m) (hlong : (Nat.toDigits 10 m).length ≤ maxIntText) :
    plainInt (Nat.toDigits 10 m) = .ok m := by
  have hall : ∀ c ∈ Nat.toDigits 10 m, isAsciiDigit c = true := fun _ =>
    isAsciiDigit_of_mem_toDigits
  have hread := natOfDigits_toDigits m
  have hzero := head?_toDigits h
  cases hdigits : Nat.toDigits 10 m with
  | nil => exact absurd hdigits Nat.toDigits_ne_nil
  | cons c digits =>
    rw [hdigits] at hall hread hzero hlong
    have hminus : c ≠ '-' := by
      rintro rfl
      exact absurd (hall '-' List.mem_cons_self) (by decide)
    have hnonzero : c ≠ '0' := fun hc => hzero (congrArg some hc)
    have htake : (c :: digits).takeWhile isAsciiDigit = c :: digits :=
      List.takeWhile_eq_self_iff.mpr hall
    unfold plainInt
    split
    rename_i negative magnitude hsign
    split at hsign
    · rename_i r hcase
      exact absurd (List.cons.inj hcase).1 hminus
    · obtain ⟨rfl, rfl⟩ := Prod.mk.inj hsign
      dsimp only
      rw [htake]
      split
      · rename_i hnone
        cases hnone
      · rename_i hcase
        exact absurd (List.cons.inj hcase).1 hnonzero
      · rw [Nat.sub_self, Nat.sub_zero, if_neg (by omega), if_neg (by omega), hread]
        rfl

/-- A number that is not too long is read back from its decimal text. -/
lemma intOfText_toString {m : Nat} (h : 0 < m) (hlong : (Nat.toDigits 10 m).length ≤ maxIntText) :
    intOfText (toString (m : Int)) = .ok m := by
  have htext : (toString (m : Int)).toList = Nat.toDigits 10 m := by
    have hdigits : toString (m : Int) = String.ofList (Nat.toDigits 10 m) :=
      Nat.repr_eq_ofList_toDigits
    rw [hdigits, String.toList_ofList]
  rw [intOfText, htext, plainInt_toDigits h hlong]

lemma intOfText_port (h : 1 ≤ n ∧ n ≤ 65535) : intOfText (toString n) = .ok n := by
  obtain ⟨m, rfl⟩ := Int.eq_ofNat_of_zero_le (by omega : 0 ≤ n)
  have hlong : (Nat.toDigits 10 m).length ≤ 5 :=
    (Nat.length_toDigits_le_iff (by omega) (by omega)).mpr (by omega)
  exact intOfText_toString (by omega) (hlong.trans (by decide))

/-! ### The last option -/

lemma joinWith_concat (h : pieces ≠ []) :
    joinWith sep (pieces ++ [last]) = joinWith sep pieces ++ sep :: last := by
  induction pieces with
  | nil => exact absurd rfl h
  | cons piece pieces ih =>
    cases pieces with
    | nil => rfl
    | cons next pieces =>
      have hrest := ih (List.cons_ne_nil _ _)
      rw [List.cons_append] at hrest
      simp only [List.cons_append, joinWith, hrest, List.append_assoc]

/-- An option that is written after others ends its directive. -/
lemma getLast?_written (h : options ≠ []) {key value : String}
    (hplain : ',' ∉ key.toList ++ '=' :: value.toList) :
    (splitOn ',' (written jar (options ++ [(key, value)])).toList).getLast? =
      some (key.toList ++ '=' :: value.toList) := by
  have hrender : (Agent.renderOptions (options ++ [(key, value)])).toList =
      (Agent.renderOptions options).toList ++ ',' :: (key.toList ++ '=' :: value.toList) := by
    rw [toList_renderOptions, toList_renderOptions, List.map_append]
    exact joinWith_concat fun hnone => h (List.map_eq_nil_iff.mp hnone)
  have htext : (written jar (options ++ [(key, value)])).toList =
      (written jar options).toList ++ ',' :: (key.toList ++ '=' :: value.toList) := by
    simp only [written, String.toList_append, hrender, List.append_assoc]
  rw [htext, splitOn_append_sep, splitOn_of_not_mem hplain, List.getLast?_concat]

/-- A directive whose last option is the control port. -/
def OpensPort (n : Int) (directive : String) : Prop :=
  (splitOn ',' directive.toList).getLast? = some ("http-server-port=" ++ toString n).toList

lemma opensPort_written {cwd workingDir artifact : Path} {includes excludes : List String}
    {dumpDir : Option Path} (h : 1 ≤ n) :
    OpensPort n (written jar (toldOptions cwd workingDir artifact n includes excludes dumpDir)) := by
  have hplain : ',' ∉ "http-server-port".toList ++ '=' :: (toString n).toList := by
    rw [List.mem_append, List.mem_cons]
    rintro (hkey | hequals | hdigit)
    · exact absurd hkey (by decide)
    · exact absurd hequals (by decide)
    · exact absurd (isDigit_of_mem_toString h hdigit) (by decide)
  have hkey : "http-server-port=".toList = "http-server-port".toList ++ ['='] := by decide
  rw [OpensPort, String.toList_append, hkey, List.append_assoc]
  exact getLast?_written (by simp) hplain

/-! ### Plans -/

/-- The address and the directive of an agent: one port in both, or the address that is configured
and no directive. -/
def ChannelAgrees (c : AgentConfig) (agentUrl : String) (directive : Option String) : Prop :=
  match c.mode with
  | .local =>
    ∃! n : Int, (1 ≤ n ∧ n ≤ 65535) ∧ agentUrl = "http://localhost:" ++ toString n ∧
      intOfText (toString n) = .ok n ∧ ∃ d, directive = some d ∧ OpensPort n d
  | .remote => c.url = some agentUrl ∧ directive = none

lemma channelAgrees_of_directive {c : AgentConfig} {limit : Number.DigitLimit}
    {cwd workingDir artifact dumpDir : Path} {directive : Option String} (hurl : (c.agent dumpDir).controlUrl ≠ "")
    (h : (c.agent dumpDir).directive limit cwd workingDir artifact = .ok directive) :
    ChannelAgrees c (c.agent dumpDir).controlUrl directive := by
  unfold ChannelAgrees
  unfold AgentConfig.agent at hurl h ⊢
  cases hmode : c.mode with
  | remote =>
    rw [hmode] at hurl h
    refine ⟨?_, (Except.ok.inj h).symm⟩
    cases hgiven : c.url with
    | none => exact absurd (by rw [hgiven]; rfl) hurl
    | some url => rfl
  | «local» =>
    rw [hmode] at h
    obtain ⟨j, n, -, hport, hrange, rfl⟩ := directive_eq_ok h
    obtain rfl := Data.int.inj hport
    refine ⟨c.controlPort, ⟨hrange, rfl, intOfText_port hrange, _, rfl, opensPort_written hrange.1⟩,
      ?_⟩
    -- Another port with the same address is read from the same text.
    rintro m ⟨hm, haddress, hread, -⟩
    have htext : toString c.controlPort = toString m := String.append_right_inj _ |>.mp haddress
    rw [← htext, intOfText_port hrange] at hread
    exact (Except.ok.inj hread).symm

/-- The agent of a plan has an address. -/
lemma Planned.controlUrl_ne_empty (h : Planned config around request plan) :
    (agentOf config request).controlUrl ≠ "" := by
  have hdefects : argumentDefects config request = [] :=
    (arguments_reportsFirst _ config request).ok_iff.mp ⟨_, h.arguments⟩
  have hgiven : required "agent.url" (agentOf config request).controlUrl = [] :=
    List.flatten_eq_nil_iff.mp hdefects _ (by simp)
  intro hempty
  rw [required, if_pos hempty] at hgiven
  cases hgiven

/-- An attached agent is told to open the port at which the executor is told to reach it, and an
agent that runs elsewhere is reached where it is configured to be. The directive, if there is one,
stands between the configured options of the virtual machine and the class path or the main class. -/
theorem control_channel_agrees (config : Config) (around : Surroundings) (request : LaunchRequest)
    (plan : Plan) (h : Plan.build config around request = .ok plan) :
    (∃ i, instructions? plan.arguments = some i ∧
      ChannelAgrees config.agent i.agentUrl plan.directive) ∧
    ∃ rest, plan.command = config.executor.java :: config.executor.jvmArgs ++
        plan.directive.toList ++ rest ∧
      rest = Plan.classpathOptions config.executor.classpath ++
        config.executor.mainClass :: plan.arguments ∧
      rest.head? = some (if config.executor.classpath = [] then config.executor.mainClass else "-cp")
    := by
  have hplanned := planned_of_build h
  obtain ⟨i, hread, htold, -⟩ := hplanned.told
  refine ⟨⟨i, hread, ?_⟩, _, ?_, rfl, ?_⟩
  · rw [htold]
    exact channelAgrees_of_directive hplanned.controlUrl_ne_empty hplanned.directive
  · rw [hplanned.command, List.append_assoc]
  · unfold Plan.classpathOptions
    cases config.executor.classpath <;> rfl

/-- An agent that runs elsewhere. -/
def sampleRemote : Config :=
  { sampleConfig with
    agent := { AgentConfig.default with mode := .remote, url := some "http://agent.example/a,b=c" }
    executor := { sampleConfig.executor with classpath := [] } }

/-- A port that is told twice, and an address with a comma and an equals sign. -/
theorem sample_channels_agree :
    (∃ plan i directive,
      Plan.build sampleConfig sampleSurroundings sampleRequest = .ok plan ∧
      instructions? plan.arguments = some i ∧ i.agentUrl = "http://localhost:8123" ∧
      plan.directive = some directive ∧ OpensPort 8123 directive) ∧
    ∃ plan i, Plan.build sampleRemote sampleSurroundings sampleRequest = .ok plan ∧
      instructions? plan.arguments = some i ∧ i.agentUrl = "http://agent.example/a,b=c" ∧
      plan.directive = none ∧
      ∃ rest, plan.command = "/bin/java" :: rest ∧ rest.head? = some sampleRemote.executor.mainClass := by
  obtain ⟨attached, hattached⟩ : ∃ plan,
      Plan.build sampleConfig sampleSurroundings sampleRequest = .ok plan := ⟨_, rfl⟩
  obtain ⟨remote, hremote⟩ : ∃ plan,
      Plan.build sampleRemote sampleSurroundings sampleRequest = .ok plan := ⟨_, rfl⟩
  obtain ⟨⟨i, hread, n, ⟨-, haddress, hport, d, hdirective, hopens⟩, -⟩, -⟩ :=
    control_channel_agrees _ _ _ _ hattached
  obtain ⟨⟨j, hread', haddress', hnone⟩, rest, hcommand, -, hhead⟩ :=
    control_channel_agrees _ _ _ _ hremote
  obtain ⟨told, htold, hurl, -⟩ := (planned_of_build hattached).told
  obtain rfl := Option.some.inj (htold.symm.trans hread)
  have htexts : "http://localhost:" ++ toString n = "http://localhost:" ++ toString (8123 : Int) :=
    haddress.symm.trans hurl
  have hn : n = 8123 := by
    rw [String.append_right_inj _ |>.mp htexts, intOfText_port (by decide)] at hport
    exact (Except.ok.inj hport).symm
  subst hn
  refine ⟨⟨attached, told, d, hattached, hread, hurl, hdirective, hopens⟩,
    remote, j, hremote, hread', (Option.some.inj haddress').symm, hnone, rest, ?_, hhead⟩
  rw [hcommand, hnone]
  rfl

end TestImpact.Proofs
