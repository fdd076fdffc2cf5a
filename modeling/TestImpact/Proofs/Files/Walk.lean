import Mathlib.Tactic.Lemma
import TestImpact.Files.Operations

/-!
# Where paths lead

`Leads` states by rules where a walk ends, and `walk_eq_ok_iff` that the walk follows these rules.
A walk is compared between a tree and the tree after it has grown by directories, and between a tree
and the one without the entry that the walk ends at.
-/

namespace TestImpact.Proofs
open Files

/-- A name that is looked up in a directory. -/
def IsName (name : String) : Prop :=
  name ≠ "" ∧ name ≠ "." ∧ name ≠ ".." ∧ name.utf8ByteSize ≤ maxName

/-- Where the names on a path lead from a directory, with at most `links` links followed. -/
inductive Leads (fs : Files) (follow : Bool) : Nat → Location → List String → Spot → Prop
  | here {links dir} : Leads fs follow links dir [] ⟨dir, some .dir⟩
  | skip {links dir name rest spot} : name = "" ∨ name = "." →
      Leads fs follow links dir rest spot → Leads fs follow links dir (name :: rest) spot
  | up {links dir rest spot} : Leads fs follow links dir.tail rest spot →
      Leads fs follow links dir (".." :: rest) spot
  | absent {links dir name} : IsName name → fs.get? (name :: dir) = none →
      Leads fs follow links dir [name] ⟨name :: dir, none⟩
  | enter {links dir name rest spot} : IsName name → fs.get? (name :: dir) = some .dir →
      Leads fs follow links (name :: dir) rest spot → Leads fs follow links dir (name :: rest) spot
  | found {links dir name e} : IsName name → fs.get? (name :: dir) = some e → e ≠ .dir →
      (∀ target, e = .link target → follow = false) →
      Leads fs follow links dir [name] ⟨name :: dir, some e⟩
  | jump {links dir name target rest spot} : IsName name →
      fs.get? (name :: dir) = some (.link target) → (rest = [] → follow = true) → target ≠ "" →
      Leads fs follow links (if isRooted target then [] else dir) (namesOf target ++ rest) spot →
      Leads fs follow (links + 1) dir (name :: rest) spot

variable {fs : Files} {follow : Bool} {links : Nat} {dir l : Location} {name : String}
  {names rest : List String} {spot : Spot}

/-! ### One step of a walk -/

attribute [local simp] walk walkTo

lemma walk_nil : fs.walk follow links dir [] = .ok ⟨dir, some .dir⟩ := by
  cases links <;> rfl

lemma walk_skip (h : name = "" ∨ name = ".") :
    fs.walk follow links dir (name :: rest) = fs.walk follow links dir rest := by
  cases links <;> simp only [walk, walkTo, if_pos h]

lemma walk_up : fs.walk follow links dir (".." :: rest) = fs.walk follow links dir.tail rest := by
  cases links <;> simp

lemma walk_absent (hname : IsName name) (h : fs.get? (name :: dir) = none) :
    fs.walk follow links dir (name :: rest) =
      if rest = [] then .ok ⟨name :: dir, none⟩ else .error .noEntry := by
  obtain ⟨hempty, hdot, hdots, hsize⟩ := hname
  cases links <;> simp [hempty, hdot, hdots, Nat.not_lt.mpr hsize, h]

lemma walk_enter (hname : IsName name) (h : fs.get? (name :: dir) = some .dir) :
    fs.walk follow links dir (name :: rest) = fs.walk follow links (name :: dir) rest := by
  obtain ⟨hempty, hdot, hdots, hsize⟩ := hname
  cases links <;> simp [hempty, hdot, hdots, Nat.not_lt.mpr hsize, h]

lemma walk_found {e : Entry} (hname : IsName name) (h : fs.get? (name :: dir) = some e)
    (hdir : e ≠ .dir) (hlink : ∀ target, e = .link target → follow = false) :
    fs.walk follow links dir [name] = .ok ⟨name :: dir, some e⟩ := by
  obtain ⟨hempty, hdot, hdots, hsize⟩ := hname
  cases e with
  | dir => exact absurd rfl hdir
  | file content executable =>
    cases links <;> simp [hempty, hdot, hdots, Nat.not_lt.mpr hsize, h]
  | link target =>
    have hf := hlink target rfl
    cases links <;> simp [hempty, hdot, hdots, Nat.not_lt.mpr hsize, h, hf]

lemma walk_jump {target : String} (hname : IsName name)
    (h : fs.get? (name :: dir) = some (.link target)) (hrest : rest = [] → follow = true)
    (htarget : target ≠ "") :
    fs.walk follow (links + 1) dir (name :: rest) =
      fs.walk follow links (if isRooted target then [] else dir) (namesOf target ++ rest) := by
  obtain ⟨hempty, hdot, hdots, hsize⟩ := hname
  have hgo : ¬(rest = [] ∧ (!follow) = true) := by
    rintro ⟨hr, hf⟩
    simp [hrest hr] at hf
  simp only [walk, walkTo, hempty, hdot, hdots, Nat.not_lt.mpr hsize, h, hgo, htarget, or_self,
    if_false]

/-! ### Walks by rules -/

lemma walk_eq_of_leads (h : Leads fs follow links dir names spot) :
    fs.walk follow links dir names = .ok spot := by
  induction h with
  | here => exact walk_nil
  | skip hname _ ih => rw [walk_skip hname, ih]
  | up _ ih => rw [walk_up, ih]
  | absent hname hget => rw [walk_absent hname hget, if_pos rfl]
  | enter hname hget _ ih => rw [walk_enter hname hget, ih]
  | found hname hget hdir hlink => exact walk_found hname hget hdir hlink
  | jump hname hget hrest htarget _ ih => rw [walk_jump hname hget hrest htarget, ih]

/-- The rules for the links come from what is done at a link. -/
lemma leads_of_walkTo {jump : Location → String → List String → Except OsErrorKind Spot}
    (hjump : ∀ dir name target rest spot, IsName name →
      fs.get? (name :: dir) = some (.link target) → (rest = [] → follow = true) →
      jump dir target rest = .ok spot → Leads fs follow links dir (name :: rest) spot)
    (h : fs.walkTo follow jump dir names = .ok spot) : Leads fs follow links dir names spot := by
  induction names generalizing dir with
  | nil =>
    rw [walkTo, Except.ok.injEq] at h
    subst h
    exact .here
  | cons name rest ih =>
    rw [walkTo] at h
    by_cases hskip : name = "" ∨ name = "."
    · rw [if_pos hskip] at h
      exact .skip hskip (ih h)
    rw [if_neg hskip] at h
    by_cases hup : name = ".."
    · rw [if_pos hup] at h
      subst hup
      exact .up (ih h)
    rw [if_neg hup] at h
    by_cases hsize : maxName < name.utf8ByteSize
    · simp [hsize] at h
    rw [if_neg hsize] at h
    have hname : IsName name := ⟨fun he => hskip (.inl he), fun he => hskip (.inr he), hup, by omega⟩
    cases hget : fs.get? (name :: dir) with
    | none =>
      by_cases hrest : rest = []
      · simp only [hget, hrest, if_true, Except.ok.injEq] at h
        subst hrest h
        exact .absent hname hget
      · simp [hget, hrest] at h
    | some e =>
      cases e with
      | dir =>
        rw [hget] at h
        exact .enter hname hget (ih h)
      | file content executable =>
        by_cases hrest : rest = []
        · simp only [hget, hrest, if_true, Except.ok.injEq] at h
          subst hrest h
          exact .found hname hget (by simp) (by simp)
        · simp [hget, hrest] at h
      | link target =>
        by_cases hend : rest = [] ∧ (!follow) = true
        · simp only [hget, hend, and_self, if_true, Except.ok.injEq] at h
          obtain ⟨rfl, hf⟩ := hend
          subst h
          exact .found hname hget (by simp) (fun _ _ => by simpa using hf)
        · simp only [hget, if_neg hend] at h
          exact hjump dir name target rest spot hname hget (fun hr => by simpa [hr] using hend) h

/-- A walk ends where the rules say. -/
theorem walk_eq_ok_iff :
    fs.walk follow links dir names = .ok spot ↔ Leads fs follow links dir names spot := by
  refine ⟨fun h => ?_, walk_eq_of_leads⟩
  induction links generalizing dir names spot with
  | zero =>
    rw [walk] at h
    exact leads_of_walkTo (by simp) h
  | succ links ih =>
    rw [walk] at h
    refine leads_of_walkTo (fun dir name target rest spot hname hget hrest hj => ?_) h
    by_cases htarget : target = ""
    · simp [htarget] at hj
    · rw [if_neg htarget] at hj
      exact .jump hname hget hrest htarget (ih hj)

/-- Apart from directories, a walk ends at the entry that is at its location. -/
lemma get?_of_leads (h : Leads fs follow links dir names spot) :
    spot.entry = some .dir ∨ fs.get? spot.location = spot.entry := by
  induction h with
  | here => exact .inl rfl
  | skip _ _ ih => exact ih
  | up _ ih => exact ih
  | absent _ hget => exact .inr hget
  | enter _ _ _ ih => exact ih
  | found _ hget _ _ => exact .inr hget
  | jump _ _ _ _ _ ih => exact ih

/-- Where nothing is, there is no link to follow either. -/
lemma leads_follow (h : Leads fs false links dir names spot) (hnone : spot.entry = none) :
    Leads fs true links dir names spot := by
  induction h with
  | here => simp at hnone
  | skip hname _ ih => exact .skip hname (ih hnone)
  | up _ ih => exact .up (ih hnone)
  | absent hname hget => exact .absent hname hget
  | enter hname hget _ ih => exact .enter hname hget (ih hnone)
  | found => simp at hnone
  | jump hname hget hrest htarget _ ih => exact .jump hname hget (fun _ => rfl) htarget (ih hnone)

/-- A walk goes on from the directory that its first names lead to. -/
lemma walk_append (h : Leads fs true links dir names ⟨l, some .dir⟩) :
    ∃ left, ∀ follow rest, rest ≠ [] →
      fs.walk follow links dir (names ++ rest) = fs.walk follow left l rest := by
  generalize hspot : (⟨l, some .dir⟩ : Spot) = spot at h
  induction h with
  | @here links dir =>
    obtain ⟨rfl, -⟩ := Spot.mk.inj hspot
    exact ⟨links, fun _ _ _ => rfl⟩
  | skip hname _ ih =>
    obtain ⟨left, hleft⟩ := ih hspot
    exact ⟨left, fun follow rest hrest => by
      rw [List.cons_append, walk_skip hname, hleft follow rest hrest]⟩
  | up _ ih =>
    obtain ⟨left, hleft⟩ := ih hspot
    exact ⟨left, fun follow rest hrest => by
      rw [List.cons_append, walk_up, hleft follow rest hrest]⟩
  | absent => simp at hspot
  | enter hname hget _ ih =>
    obtain ⟨left, hleft⟩ := ih hspot
    exact ⟨left, fun follow rest hrest => by
      rw [List.cons_append, walk_enter hname hget, hleft follow rest hrest]⟩
  | found _ _ hdir _ =>
    obtain ⟨-, he⟩ := Spot.mk.inj hspot
    exact absurd (Option.some.inj he).symm hdir
  | jump hname hget _ htarget _ ih =>
    obtain ⟨left, hleft⟩ := ih hspot
    refine ⟨left, fun follow rest hrest => ?_⟩
    have hgo : ∀ names : List String, names ++ rest = [] → follow = true := by simp [hrest]
    rw [List.cons_append, walk_jump hname hget (hgo _) htarget, ← List.append_assoc,
      hleft follow rest hrest]

/-! ### Walks in other trees -/

/-- A tree grows when directories are made in it. -/
structure Grows (fs later : Files) : Prop where
  keeps : ∀ l e, fs.get? l = some e → later.get? l = some e
  adds : ∀ l, fs.get? l = none → later.get? l = none ∨ later.get? l = some .dir

lemma Grows.refl (fs : Files) : Grows fs fs := ⟨fun _ _ h => h, fun _ h => .inl h⟩

lemma Grows.trans {first second third : Files} (h : Grows first second) (k : Grows second third) :
    Grows first third := by
  refine ⟨fun l e he => k.keeps l e (h.keeps l e he), fun l hl => ?_⟩
  rcases h.adds l hl with hn | hd
  · exact k.adds l hn
  · exact .inr (k.keeps l _ hd)

/-- In a tree that has grown a walk ends at the same place, where there may be a new directory. -/
lemma leads_grows {later : Files} (hgrows : Grows fs later)
    (h : Leads fs follow links dir names spot) :
    Leads later follow links dir names
      ⟨spot.location, spot.entry.or (later.get? spot.location)⟩ := by
  induction h with
  | here => exact .here
  | skip hname _ ih => exact .skip hname ih
  | up _ ih => exact .up ih
  | absent hname hget =>
    rcases hgrows.adds _ hget with hn | hd
    · simp only [Option.none_or, hn]
      exact .absent hname hn
    · simp only [Option.none_or, hd]
      exact .enter hname hd .here
  | enter hname hget _ ih => exact .enter hname (hgrows.keeps _ _ hget) ih
  | found hname hget hdir hlink => exact .found hname (hgrows.keeps _ _ hget) hdir hlink
  | jump hname hget hrest htarget _ ih =>
    exact .jump hname (hgrows.keeps _ _ hget) hrest htarget ih

/-- Without the entry that a path led to, the path leads nowhere: there is nothing at its end, or it
passed the same entry on its way. -/
lemma walk_without {later : Files} {e : Entry} (he : e ≠ .dir)
    (hlater : ∀ m, later.get? m = if m = l then none else fs.get? m)
    (h : Leads fs false links dir names ⟨l, some e⟩) :
    later.walk false links dir names = .ok ⟨l, none⟩ ∨
      later.walk false links dir names = .error .noEntry := by
  have hl : fs.get? l = some e := by
    rcases get?_of_leads h with hd | hg
    · exact absurd (Option.some.inj hd) he
    · exact hg
  generalize hspot : (⟨l, some e⟩ : Spot) = spot at h
  induction h with
  | here =>
    obtain ⟨-, hd⟩ := Spot.mk.inj hspot
    exact absurd (Option.some.inj hd) he
  | skip hname _ ih =>
    rw [walk_skip hname]
    exact ih hspot
  | up _ ih =>
    rw [walk_up]
    exact ih hspot
  | absent => simp at hspot
  | @enter _ dir name _ _ hname hget _ ih =>
    have hne : name :: dir ≠ l := by
      intro hn
      rw [hn, hl] at hget
      exact he (Option.some.inj hget)
    have hget' : later.get? (name :: dir) = some .dir := by rw [hlater, if_neg hne, hget]
    rw [walk_enter hname hget']
    exact ih hspot
  | @found _ dir name _ hname _ _ _ =>
    obtain ⟨rfl, -⟩ := Spot.mk.inj hspot
    have hget' : later.get? (name :: dir) = none := by rw [hlater, if_pos rfl]
    rw [walk_absent hname hget', if_pos rfl]
    exact .inl rfl
  | @jump _ dir name _ rest _ hname hget hrest htarget _ ih =>
    by_cases hn : name :: dir = l
    · have hget' : later.get? (name :: dir) = none := by rw [hlater, if_pos hn]
      have hmore : rest ≠ [] := fun hr => by simpa using hrest hr
      rw [walk_absent hname hget', if_neg hmore]
      exact .inr rfl
    · have hget' := hlater (name :: dir)
      rw [if_neg hn, hget] at hget'
      rw [walk_jump hname hget' hrest htarget]
      exact ih hspot

end TestImpact.Proofs
