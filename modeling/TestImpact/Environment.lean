/-!
# Environment variables

Variables with their values, in order. Setting a variable that is there keeps its place.
-/

namespace TestImpact

/-- Names of variables with their values. -/
abbrev Environment := List (String × String)

namespace Environment

def get? (env : Environment) (name : String) : Option String := env.lookup name

/-- Sets one variable. -/
def set : Environment → String → String → Environment
  | [], name, value => [(name, value)]
  | (n, v) :: env, name, value =>
    if n = name then (n, value) :: env else (n, v) :: set env name value

def erase (env : Environment) (name : String) : Environment := env.filter (·.1 ≠ name)

/-- Sets all variables of another environment. -/
def overlay (env upper : Environment) : Environment :=
  upper.foldl (fun env (name, value) => env.set name value) env

theorem get?_set (env : Environment) (name value other : String) :
    (env.set name value).get? other = if other = name then some value else env.get? other := by
  induction env with
  | nil =>
    by_cases h : other = name
    · simp [set, get?, h]
    · simp [set, get?, List.lookup_cons, h, show (other == name) = false by simpa using h]
  | cons entry env ih =>
    obtain ⟨n, v⟩ := entry
    simp only [get?] at ih
    by_cases hn : n = name
    · subst hn
      by_cases h : other = n
      · simp [set, get?, h]
      · simp [set, get?, List.lookup_cons, h, show (other == n) = false by simpa using h]
    · simp only [set, hn, if_false, get?, List.lookup_cons]
      by_cases h : other = n
      · subst h
        simp [hn]
      · simp [show (other == n) = false by simpa using h, ih]

theorem get?_overlay (env upper : Environment) (name : String) :
    (env.overlay upper).get? name = (upper.reverse.lookup name).or (env.get? name) := by
  induction upper generalizing env with
  | nil => rfl
  | cons entry upper ih =>
    obtain ⟨n, v⟩ := entry
    change ((env.set n v).overlay upper).get? name = _
    rw [ih, get?_set, List.reverse_cons, List.lookup_append]
    by_cases hname : name = n
    · simp [hname]
    · have hname' : (name == n) = false := by simpa using hname
      simp [hname, List.lookup_cons, hname']

end Environment

end TestImpact
