import Mathlib.Data.List.Forall2
import MetricLayer.Fault

/-!
# Computations that may fail

A computation that succeeds has succeeded at every stage.
-/
namespace MetricLayer

/-- The stages of a computation that succeeds. -/
theorem bind_eq_ok {ε α β : Type} {x : Except ε α} {f : α → Except ε β} {b : β}
    (h : x >>= f = .ok b) : ∃ a, x = .ok a ∧ f a = .ok b := by
  cases x with
  | error e => cases h
  | ok a => exact ⟨a, rfl, h⟩

/-- A computation that fails has failed at one of its stages. -/
theorem bind_eq_error {α β : Type} {x : Except Fault α} {f : α → Except Fault β} {e : Fault}
    (h : x >>= f = .error e) : x = .error e ∨ ∃ a, x = .ok a ∧ f a = .error e := by
  cases x with
  | error e' =>
    obtain rfl := Except.error.inj h
    exact .inl rfl
  | ok a => exact .inr ⟨a, rfl, h⟩

/-- A computation fails like another one if they begin alike and fail alike after that. -/
theorem bind_error_congr {α β : Type} {x : Except Fault α} {f g : α → Except Fault β} {e : Fault}
    (h : x >>= f = .error e) (hfg : ∀ a, f a = .error e → g a = .error e) :
    x >>= g = .error e := by
  cases x with
  | error e' => exact h
  | ok a => exact hfg a h

/-- A last stage that only puts a result into another form does not fail. -/
theorem map_eq_error {α β : Type} {x : Except Fault α} {g : α → β} {e : Fault}
    (h : (x >>= fun a => pure (g a)) = .error e) : x = .error e := by
  rcases bind_eq_error h with h | ⟨_, _, h⟩
  · exact h
  · cases h

/-- An item of a list is related to one of the list beside it. -/
lemma exists_of_forall₂ {α β : Type} {R : α → β → Prop} {xs : List α} {ys : List β}
    (h : List.Forall₂ R xs ys) {y : β} (hy : y ∈ ys) : ∃ x ∈ xs, R x y := by
  induction h with
  | nil => cases hy
  | @cons x b xs bs hx _ ih =>
    rcases List.mem_cons.mp hy with rfl | hy
    · exact ⟨x, List.mem_cons_self, hx⟩
    · obtain ⟨x', hmem, hR⟩ := ih hy
      exact ⟨x', List.mem_cons_of_mem _ hmem, hR⟩

/-- The results of a computation that succeeds for all items of a list. -/
theorem mapM_eq_ok {α β : Type} {f : α → Except Fault β} {xs : List α} {ys : List β}
    (h : xs.mapM f = .ok ys) : List.Forall₂ (fun x y => f x = .ok y) xs ys := by
  induction xs generalizing ys with
  | nil =>
    obtain rfl := Except.ok.inj h
    exact .nil
  | cons x xs ih =>
    rw [List.mapM_cons] at h
    obtain ⟨y, hy, h⟩ := bind_eq_ok h
    obtain ⟨rest, hrest, h⟩ := bind_eq_ok h
    obtain rfl := Except.ok.inj h
    exact .cons hy (ih hrest)

/-- A computation that succeeds for each item of a list succeeds for all of them. -/
theorem mapM_of_forall₂ {α β : Type} {f : α → Except Fault β} {xs : List α} {ys : List β}
    (h : List.Forall₂ (fun x y => f x = .ok y) xs ys) : xs.mapM f = .ok ys := by
  induction h with
  | nil => rfl
  | cons hx _ ih =>
    rw [List.mapM_cons, hx, ih]
    rfl

theorem mem_mapM_iff {α β : Type} {f : α → Except Fault β} {xs : List α} {ys : List β}
    (h : xs.mapM f = .ok ys) {y : β} : y ∈ ys ↔ ∃ x ∈ xs, f x = .ok y := by
  have hall := mapM_eq_ok h
  clear h
  induction hall with
  | nil => simp
  | cons hx _ ih => simp [ih, hx, eq_comm]

/-- Every item of a computation that succeeds for all has a result. -/
lemma exists_of_mapM {α β : Type} {f : α → Except Fault β} {xs : List α} {ys : List β}
    (h : xs.mapM f = .ok ys) {x : α} (hx : x ∈ xs) : ∃ y ∈ ys, f x = .ok y :=
  exists_of_forall₂ (mapM_eq_ok h).flip hx

/-- Selecting among results is selecting among what they are computed for. -/
lemma mapM_filter {α β : Type} {f : α → Except Fault β} {xs : List α} {ys : List β}
    {p : α → Bool} {q : β → Bool} (h : xs.mapM f = .ok ys)
    (hpq : ∀ x y, f x = .ok y → p x = q y) : (xs.filter p).mapM f = .ok (ys.filter q) := by
  refine mapM_of_forall₂ (List.rel_filter (fun x y hxy => ?_) (mapM_eq_ok h))
  show p x = true ↔ q y = true
  rw [hpq x y hxy]

/-- A computation for all items of a list fails as it fails for the first one for which it does. -/
theorem mapM_eq_error_iff {α β : Type} {f : α → Except Fault β} {xs : List α} {e : Fault} :
    xs.mapM f = .error e ↔ ∃ before x after, xs = before ++ x :: after ∧
      (∀ b ∈ before, ∃ y, f b = .ok y) ∧ f x = .error e := by
  constructor
  · intro h
    induction xs with
    | nil => cases h
    | cons x xs ih =>
      rw [List.mapM_cons] at h
      rcases bind_eq_error h with h | ⟨y, hy, h⟩
      · exact ⟨[], x, xs, rfl, nofun, h⟩
      · obtain ⟨before, x', after, rfl, hbefore, hf⟩ := ih (map_eq_error h)
        exact ⟨x :: before, x', after, rfl, List.forall_mem_cons.mpr ⟨⟨y, hy⟩, hbefore⟩, hf⟩
  · rintro ⟨before, x, after, rfl, hbefore, hf⟩
    induction before with
    | nil =>
      rw [List.nil_append, List.mapM_cons, hf]
      rfl
    | cons b before ih =>
      obtain ⟨⟨y, hy⟩, hbefore⟩ := List.forall_mem_cons.mp hbefore
      rw [List.cons_append, List.mapM_cons, hy, ih hbefore]
      rfl

lemma mapM_eq_error {α β : Type} {f : α → Except Fault β} {xs : List α} {e : Fault}
    (h : xs.mapM f = .error e) : ∃ x ∈ xs, f x = .error e := by
  obtain ⟨before, x, after, rfl, _, hf⟩ := mapM_eq_error_iff.mp h
  exact ⟨x, by simp, hf⟩

lemma mapM_ok {α : Type} (xs : List α) : xs.mapM (fun x => (.ok x : Except Fault α)) = .ok xs := by
  have hpure := List.mapM_pure (m := Except Fault) (l := xs) (f := id)
  rwa [List.map_id] at hpure

/-! ### Two computations -/

/-- Two computations fail with the same fault, or succeed with related results. -/
inductive Together {α β : Type} (R : α → β → Prop) : Except Fault α → Except Fault β → Prop
  | error (e : Fault) : Together R (.error e) (.error e)
  | ok {a : α} {b : β} : R a b → Together R (.ok a) (.ok b)

namespace Together

variable {α β γ δ : Type} {R : α → β → Prop} {S : γ → δ → Prop}

theorem bind {x : Except Fault α} {y : Except Fault β} {f : α → Except Fault γ}
    {g : β → Except Fault δ} (h : Together R x y)
    (hfg : ∀ a b, x = .ok a → y = .ok b → R a b → Together S (f a) (g b)) :
    Together S (x >>= f) (y >>= g) := by
  cases h with
  | error e => exact .error e
  | ok hab => exact hfg _ _ rfl rfl hab

theorem imp {R' : α → β → Prop} {x : Except Fault α} {y : Except Fault β} (h : Together R x y)
    (hR : ∀ a b, R a b → R' a b) : Together R' x y := by
  cases h with
  | error e => exact .error e
  | ok hab => exact .ok (hR _ _ hab)

/-- What follows the same computation may differ. -/
theorem bind_same {x : Except Fault α} {f : α → Except Fault γ} {g : α → Except Fault δ}
    (h : ∀ a, x = .ok a → Together S (f a) (g a)) : Together S (x >>= f) (x >>= g) := by
  cases x with
  | error e => exact .error e
  | ok a => exact h a rfl

theorem of_ok {x : Except Fault α} {y : Except Fault β} (h : Together R x y) {a : α}
    (hx : x = .ok a) : ∃ b, y = .ok b ∧ R a b := by
  subst hx
  cases h with
  | ok hab => exact ⟨_, rfl, hab⟩

end Together

end MetricLayer
