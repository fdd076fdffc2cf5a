import Mathlib.Tactic.Lemma

/-!
# Results

When a step on results succeeds or fails, and when two results show the same.
-/

namespace TestImpact.Proofs

/-! ### Steps -/

lemma ok_bind {ε α β : Type} (a : α) (next : α → Except ε β) : (.ok a >>= next) = next a := rfl

lemma bind_eq_ok {ε α β : Type} {x : Except ε α} {next : α → Except ε β} {b : β} :
    x >>= next = .ok b ↔ ∃ a, x = .ok a ∧ next a = .ok b := by
  cases x with
  | error e => simp [bind, Except.bind]
  | ok a => simp [bind, Except.bind]

lemma map_eq_ok {ε α β : Type} {x : Except ε α} {f : α → β} {b : β} :
    f <$> x = .ok b ↔ ∃ a, x = .ok a ∧ b = f a := by
  cases x with
  | error e => simp [Functor.map, Except.map]
  | ok a => simp [Functor.map, Except.map, eq_comm]

lemma map_eq_error {ε α β : Type} {x : Except ε α} {f : α → β} {e : ε} :
    f <$> x = .error e ↔ x = .error e := by
  cases x with
  | error e => simp [Functor.map, Except.map]
  | ok a => simp [Functor.map, Except.map]

lemma eq_ok_of_toOption {α ε : Type} {x : Except ε α} {a : α} (h : x.toOption = some a) :
    x = .ok a := by
  cases x with
  | error e => simp [Except.toOption] at h
  | ok b => exact congrArg Except.ok (Option.some.inj h)

/-! ### Results that show the same -/

/-- Results that show the same: the same error, or values of which the same is shown. -/
lemma map_eq_map {α β ε : Type} {f : α → β} {x x' : Except ε α} (h : x'.map f = x.map f) :
    (∃ e, x = .error e ∧ x' = .error e) ∨ ∃ a a', x = .ok a ∧ x' = .ok a' ∧ f a' = f a := by
  cases x with
  | error e =>
    cases x' with
    | error e' => exact .inl ⟨e, rfl, congrArg Except.error (Except.error.inj h)⟩
    | ok a' => simp [Except.map] at h
  | ok a =>
    cases x' with
    | error e' => simp [Except.map] at h
    | ok a' => exact .inr ⟨a, a', rfl, rfl, Except.ok.inj h⟩

lemma map_bind_congr {α β γ δ ε : Type} {f : α → γ} {g : β → δ} {x x' : Except ε α}
    {next next' : α → Except ε β} (hx : x'.map f = x.map f)
    (hnext : ∀ a a', x = .ok a → x' = .ok a' → f a' = f a →
      (next' a').map g = (next a).map g) :
    (x' >>= next').map g = (x >>= next).map g := by
  rcases map_eq_map hx with ⟨e, rfl, rfl⟩ | ⟨a, a', rfl, rfl, hsame⟩
  · rfl
  · exact hnext a a' rfl rfl hsame

lemma map_bind_congr_right {α β γ ε : Type} {g : β → γ} {next next' : α → Except ε β}
    (x : Except ε α) (h : ∀ a, (next' a).map g = (next a).map g) :
    (x >>= next').map g = (x >>= next).map g := by
  refine map_bind_congr (f := id) rfl fun a a' _ _ hsame => ?_
  obtain rfl : a' = a := hsame
  exact h a'

end TestImpact.Proofs
