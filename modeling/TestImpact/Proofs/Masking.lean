import TestImpact.Proofs.Launch.Secrecy
import TestImpact.Proofs.Reading

/-!
# Masked arguments

Masking hides the argument behind every secret flag and leaves all others as they are. In an argument
vector that was built, and in which the flag of the token stands nowhere else, this is the token alone.
-/

namespace TestImpact.Proofs
open Arguments

variable {cwd : Path} {s : Selection} {args before after : List String} {previous token : String}

/-! ### What is hidden -/

lemma isSecretFlag_iff (arg : String) :
    secretFlags.contains arg = true ↔ arg = "--access-token" := by
  simp [secretFlags]

/-- Masking starts as if a public argument stood before. -/
lemma mask_eq (args : List String) : mask args = maskAfter "" args := by
  cases args <;> rfl

lemma length_maskAfter (previous : String) (args : List String) :
    (maskAfter previous args).length = args.length := by
  induction args generalizing previous with
  | nil => rfl
  | cons arg rest ih => rw [maskAfter, List.length_cons, List.length_cons, ih]

/-- An argument is hidden exactly if a secret flag stands before it. -/
lemma getElem?_maskAfter (previous : String) (args : List String) (i : Nat) :
    (maskAfter previous args)[i]? =
      if (previous :: args)[i]? = some "--access-token" then args[i]?.map fun _ => Arguments.hidden
      else args[i]? := by
  induction args generalizing previous i with
  | nil => simp [maskAfter]
  | cons arg rest ih =>
    cases i with
    | zero =>
      simp only [maskAfter, isSecretFlag_iff, List.getElem?_cons_zero, Option.some.injEq]
      split <;> rfl
    | succ i =>
      simp only [maskAfter, List.getElem?_cons_succ]
      exact ih arg i

/-! ### The flag of the token -/

lemma maskAfter_eq_self (h : "--access-token" ∉ previous :: args) :
    maskAfter previous args = args := by
  induction args generalizing previous with
  | nil => rfl
  | cons arg rest ih =>
    have hprevious : ¬secretFlags.contains previous = true := by
      rw [isSecretFlag_iff]
      exact fun he => h (by simp [he])
    rw [maskAfter, if_neg hprevious, ih (List.not_mem_of_not_mem_cons h)]

/-- Behind a flag that stands there once the next argument is hidden. -/
lemma maskAfter_flag (hbefore : "--access-token" ∉ previous :: before)
    (hafter : "--access-token" ∉ token :: after) :
    maskAfter previous (before ++ "--access-token" :: token :: after) =
      before ++ "--access-token" :: Arguments.hidden :: after := by
  induction before generalizing previous with
  | nil =>
    have hprevious : ¬secretFlags.contains previous = true := by
      rw [isSecretFlag_iff]
      exact fun he => hbefore (by simp [he])
    rw [List.nil_append, maskAfter, if_neg hprevious, maskAfter,
      if_pos ((isSecretFlag_iff _).mpr rfl), maskAfter_eq_self hafter]
    rfl
  | cons arg before ih =>
    have hprevious : ¬secretFlags.contains previous = true := by
      rw [isSecretFlag_iff]
      exact fun he => hbefore (by simp [he])
    rw [List.cons_append, maskAfter, if_neg hprevious, ih (List.not_mem_of_not_mem_cons hbefore)]
    rfl

/-! ### Built arguments -/

/-- The token stands behind its flag, and in its place any other token can stand. -/
lemma build_withToken (h : build cwd s = .ok args) :
    ∃ before after, args = before ++ "--access-token" :: s.identity.accessToken :: after ∧
      ∀ token, token ≠ "" → build cwd (Selection.withToken s token) =
        .ok (before ++ "--access-token" :: token :: after) := by
  rw [build] at h
  obtain ⟨url, hurl, h⟩ := bind_eq_ok.mp h
  obtain ⟨project, hproject, h⟩ := bind_eq_ok.mp h
  obtain ⟨user, huser, h⟩ := bind_eq_ok.mp h
  obtain ⟨accessToken, htoken, h⟩ := bind_eq_ok.mp h
  obtain ⟨partitionName, hpartition, h⟩ := bind_eq_ok.mp h
  obtain ⟨baseline, hbaseline, h⟩ := bind_eq_ok.mp h
  obtain ⟨fin, hfin, h⟩ := bind_eq_ok.mp h
  obtain ⟨agentUrl, hagent, h⟩ := bind_eq_ok.mp h
  obtain ⟨filter, hfilter, h⟩ := bind_eq_ok.mp h
  obtain rfl := eq_of_require htoken
  obtain rfl := Except.ok.inj h
  refine ⟨["--url", url, "--project", project, "--user", user],
    ["--partition", partitionName, "--baseline", baseline, "--end", fin, "--agent-url", agentUrl] ++
      ((if s.runAll then ["--all"] else []) ++ (filter ++
        ["--reports-dir", (s.reportsDir.absolute cwd).toText,
         "--scan-class-path", ScanPath.join s.scanPaths])), ?_, fun token hne => ?_⟩
  · simp only [List.cons_append, List.nil_append, List.append_assoc]
  · have hgiven : require "server.access_token" token = .ok token := by rw [require, if_neg hne]
    refine bind_eq_ok.mpr ⟨url, hurl, bind_eq_ok.mpr ⟨project, hproject, bind_eq_ok.mpr ⟨user, huser,
      bind_eq_ok.mpr ⟨token, hgiven, bind_eq_ok.mpr ⟨partitionName, hpartition,
      bind_eq_ok.mpr ⟨baseline, hbaseline, bind_eq_ok.mpr ⟨fin, hfin,
      bind_eq_ok.mpr ⟨agentUrl, hagent, bind_eq_ok.mpr ⟨filter, hfilter, ?_⟩⟩⟩⟩⟩⟩⟩⟩⟩
    simp only [List.cons_append, List.nil_append, List.append_assoc]
    rfl

/-- Masking keeps the number of arguments and hides those behind a secret flag, and no others. So from
built arguments in which no value is that flag it makes the arguments of the same selection with a
token that is hidden. -/
theorem masking_hides_token_alone :
    (∀ args : List String, (mask args).length = args.length ∧ (mask args)[0]? = args[0]? ∧
      ∀ i, (mask args)[i + 1]? =
        if args[i]? = some "--access-token" then args[i + 1]?.map fun _ => "****"
        else args[i + 1]?) ∧
    ∀ (cwd : Path) (s : Selection) (args : List String), build cwd s = .ok args →
      args.count "--access-token" = 1 →
        build cwd (Selection.withToken s "****") = .ok (mask args) := by
  refine ⟨fun args => ⟨?_, ?_, fun i => ?_⟩, fun cwd s args hbuild honce => ?_⟩
  · rw [mask_eq, length_maskAfter]
  · rw [mask_eq, getElem?_maskAfter]
    simp
  · rw [mask_eq, getElem?_maskAfter, List.getElem?_cons_succ]
    rfl
  · obtain ⟨before, after, rfl, hother⟩ := build_withToken hbuild
    rw [List.count_append, List.count_cons_self] at honce
    have hbefore : "--access-token" ∉ "" :: before := by
      refine List.not_mem_cons_of_ne_of_not_mem (by decide) (List.count_eq_zero.mp ?_)
      omega
    have hafter : "--access-token" ∉ s.identity.accessToken :: after :=
      List.count_eq_zero.mp (by omega)
    rw [hother "****" (by decide), mask_eq, maskAfter_flag hbefore hafter]
    rfl

/-- Only the token is hidden, whatever the other texts look like. -/
theorem sample_masking_hides :
    ∃ args, build (Path.ofText "/w") (Selection.withToken sampleSelection "s3cret") = .ok args ∧
      args.count "--access-token" = 1 ∧ args.count "s3cret" = 1 ∧
      build (Path.ofText "/w") (Selection.withToken sampleSelection "****") = .ok (mask args) := by
  obtain ⟨args, hbuild⟩ : ∃ args,
      build (Path.ofText "/w") (Selection.withToken sampleSelection "s3cret") = .ok args := ⟨_, rfl⟩
  have hcounts : (build (Path.ofText "/w") (Selection.withToken sampleSelection
      "s3cret")).toOption.map (fun args => (args.count "--access-token", args.count "s3cret")) =
        some (1, 1) := by decide +kernel
  rw [hbuild] at hcounts
  obtain ⟨honce, hsecret⟩ := Prod.mk.inj (Option.some.inj hcounts)
  have hmasked := masking_hides_token_alone.2 (Path.ofText "/w")
    (Selection.withToken sampleSelection "s3cret") args hbuild honce
  exact ⟨args, hbuild, honce, hsecret, hmasked⟩

end TestImpact.Proofs
