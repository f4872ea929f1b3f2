import Mathlib.Data.List.Forall2

/-!
# Outcomes of operations that can fail
-/

namespace Scaffold

variable {ε ε' α β γ δ : Type}

theorem bind_eq_ok {x : Except ε α} {f : α → Except ε β} {b : β} :
    (x >>= f) = .ok b ↔ ∃ a, x = .ok a ∧ f a = .ok b := by
  cases x with
  | error e =>
    constructor
    · intro h; cases h
    · rintro ⟨a, h, -⟩; cases h
  | ok a =>
    constructor
    · intro h; exact ⟨a, rfl, h⟩
    · rintro ⟨a', h, hf⟩; cases h; exact hf

theorem mapError_eq_ok {x : Except ε α} {f : ε → ε'} {a : α} :
    x.mapError f = .ok a ↔ x = .ok a := by
  cases x with
  | error e =>
    constructor
    · intro h; cases h
    · intro h; cases h
  | ok b =>
    constructor
    · intro h; cases h; rfl
    · intro h; cases h; rfl

theorem bind_eq_error {x : Except ε α} {f : α → Except ε β} {e : ε} :
    (x >>= f) = .error e ↔ x = .error e ∨ ∃ a, x = .ok a ∧ f a = .error e := by
  cases x with
  | error e' =>
    constructor
    · intro h; cases h; exact .inl rfl
    · rintro (h | ⟨a, h, -⟩)
      · cases h; rfl
      · cases h
  | ok a =>
    constructor
    · intro h; exact .inr ⟨a, rfl, h⟩
    · rintro (h | ⟨a', h, hf⟩)
      · cases h
      · cases h; exact hf

theorem mapError_eq_error {x : Except ε α} {f : ε → ε'} {e : ε'} :
    x.mapError f = .error e ↔ ∃ e', x = .error e' ∧ f e' = e := by
  cases x with
  | error e' =>
    constructor
    · intro h; cases h; exact ⟨e', rfl, rfl⟩
    · rintro ⟨e', h, rfl⟩; cases h; rfl
  | ok a =>
    constructor
    · intro h; cases h
    · rintro ⟨e', h, -⟩; cases h

theorem map_eq_ok {x : Except ε α} {f : α → β} {b : β} :
    x.map f = .ok b ↔ ∃ a, x = .ok a ∧ f a = b := by
  cases x with
  | error e =>
    constructor
    · intro h; cases h
    · rintro ⟨a, h, -⟩; cases h
  | ok a =>
    constructor
    · intro h; cases h; exact ⟨a, rfl, rfl⟩
    · rintro ⟨a, h, rfl⟩; cases h; rfl

theorem map_eq_error {x : Except ε α} {f : α → β} {e : ε} :
    x.map f = .error e ↔ x = .error e := by
  cases x with
  | error e' =>
    constructor
    · intro h; cases h; rfl
    · intro h; cases h; rfl
  | ok a =>
    constructor
    · intro h; cases h
    · intro h; cases h

theorem mapError_bind {x : Except ε α} {f : α → Except ε β} {g : ε → ε'} :
    (x >>= f).mapError g = x.mapError g >>= fun a => (f a).mapError g := by
  cases x <;> rfl

theorem mapError_mapError {x : Except ε α} {f : ε → ε'} {g : ε' → ε} (h : ∀ e, g (f e) = e) :
    (x.mapError f).mapError g = x := by
  cases x with
  | error e => exact congrArg Except.error (h e)
  | ok a => rfl

/-! ### Rows of operations -/

section Rows

variable {xs : List α} {ys : List β}

theorem mapM_eq_ok_iff {g : α → Except ε β} :
    xs.mapM g = .ok ys ↔ List.Forall₂ (fun x y => g x = .ok y) xs ys := by
  induction xs generalizing ys with
  | nil => cases ys <;> simp [pure, Except.pure]
  | cons x xs ih =>
    simp only [List.mapM_cons, bind_eq_ok, ih, List.forall₂_cons_left_iff]
    constructor
    · rintro ⟨y, hy, ys', hys, h⟩
      cases h
      exact ⟨y, ys', hy, hys, rfl⟩
    · rintro ⟨y, ys', hy, hys, rfl⟩
      exact ⟨y, hy, ys', hys, rfl⟩

theorem mapM_eq_some_iff {g : α → Option β} :
    xs.mapM g = some ys ↔ List.Forall₂ (fun x y => g x = some y) xs ys := by
  induction xs generalizing ys with
  | nil => cases ys <;> simp
  | cons x xs ih =>
    simp only [List.mapM_cons, Option.bind_eq_bind, Option.bind_eq_some_iff, Option.pure_def,
      Option.some.injEq, ih, List.forall₂_cons_left_iff]
    constructor
    · rintro ⟨y, hy, ys', hys, rfl⟩
      exact ⟨y, ys', hy, hys, rfl⟩
    · rintro ⟨y, ys', hy, hys, rfl⟩
      exact ⟨y, hy, ys', hys, rfl⟩

theorem exists_forall₂_iff {R : α → β → Prop} :
    (∃ ys, List.Forall₂ R xs ys) ↔ ∀ x ∈ xs, ∃ y, R x y := by
  induction xs with
  | nil => simp
  | cons x xs ih =>
    rw [List.forall_mem_cons, ← ih]
    constructor
    · rintro ⟨_, _ | ⟨hy, hys⟩⟩
      exact ⟨⟨_, hy⟩, ⟨_, hys⟩⟩
    · rintro ⟨⟨y, hy⟩, ⟨ys, hys⟩⟩
      exact ⟨y :: ys, .cons hy hys⟩

theorem mapM_eq_of_forall₂ {f : α → Option γ} {g : β → Option γ}
    (h : List.Forall₂ (fun x y => f x = g y) xs ys) : xs.mapM f = ys.mapM g := by
  induction h with
  | nil => rfl
  | cons hxy _ ih => rw [List.mapM_cons, List.mapM_cons, hxy, ih]

theorem mapM_congr {g h : α → Option β} (hgh : ∀ x ∈ xs, g x = h x) : xs.mapM g = xs.mapM h :=
  mapM_eq_of_forall₂ (List.forall₂_same.2 hgh)

theorem exists_error_of_mapM {g : α → Except ε β} {e : ε} (h : xs.mapM g = .error e) :
    ∃ x ∈ xs, g x = .error e := by
  induction xs with
  | nil => cases h
  | cons x xs ih =>
    rw [List.mapM_cons, bind_eq_error] at h
    rcases h with h | ⟨y, -, h⟩
    · exact ⟨x, List.mem_cons_self, h⟩
    · rw [bind_eq_error] at h
      rcases h with h | ⟨ys, -, h⟩
      · obtain ⟨x', hx', h⟩ := ih h
        exact ⟨x', List.mem_cons_of_mem _ hx', h⟩
      · cases h

theorem exists_step_of_foldlM_error {g : β → α → Except ε β} {b : β} {e : ε}
    (h : xs.foldlM g b = .error e) :
    ∃ before x after b', xs = before ++ x :: after ∧ before.foldlM g b = .ok b' ∧
      g b' x = .error e := by
  induction xs generalizing b with
  | nil => cases h
  | cons x xs ih =>
    rw [List.foldlM_cons, bind_eq_error] at h
    rcases h with h | ⟨b₁, hb₁, h⟩
    · exact ⟨[], x, xs, b, rfl, rfl, h⟩
    · obtain ⟨before, x', after, b', rfl, hrun, hx'⟩ := ih h
      refine ⟨x :: before, x', after, b', rfl, ?_, hx'⟩
      rw [List.foldlM_cons, hb₁]
      exact hrun

end Rows

/-! ### Related outcomes -/

section Related

variable {R : α → β → Prop} {S : γ → δ → Prop}

theorem rel_of_isSome {x : Option α} {y : Option β} (h : x.isSome = y.isSome)
    (hR : ∀ a b, x = some a → y = some b → R a b) : Option.Rel R x y := by
  cases x with
  | none =>
    cases y with
    | none => exact .none
    | some b => cases h
  | some a =>
    cases y with
    | none => cases h
    | some b => exact .some (hR a b rfl rfl)

theorem rel_map {x : Option α} {y : Option β} {f : α → γ} {g : β → δ} (h : Option.Rel R x y)
    (hS : ∀ a b, R a b → S (f a) (g b)) : Option.Rel S (x.map f) (y.map g) := by
  cases h with
  | none => exact .none
  | some h => exact .some (hS _ _ h)

theorem rel_mapM {xs : List α} {ys : List β} {f : α → Option γ} {g : β → Option δ}
    (h : List.Forall₂ (fun x y => Option.Rel S (f x) (g y)) xs ys) :
    Option.Rel (List.Forall₂ S) (xs.mapM f) (ys.mapM g) := by
  induction h with
  | nil => exact .some .nil
  | @cons x y xs ys hxy hrest ih =>
    rw [List.mapM_cons, List.mapM_cons]
    generalize f x = a at hxy
    generalize g y = b at hxy
    generalize xs.mapM f = as at ih
    generalize ys.mapM g = bs at ih
    cases hxy with
    | none => exact .none
    | some hab =>
      cases ih with
      | none => exact .none
      | some hrest => exact .some (.cons hab hrest)

end Related

/-! ### Lookups -/

section Lookups

variable {key other : String} {v : α} {es : List (String × α)}

theorem lookup_cons_eq :
    ((other, v) :: es).lookup key = if key = other then some v else es.lookup key := by
  rw [List.lookup_cons]
  by_cases h : key = other
  · rw [if_pos h, beq_iff_eq.2 h]
  · rw [if_neg h, beq_false_of_ne h]

theorem lookup_map_snd (g : α → β) :
    (es.map fun e => (e.1, g e.2)).lookup key = (es.lookup key).map g := by
  induction es with
  | nil => rfl
  | cons e es ih =>
    obtain ⟨k, v⟩ := e
    rw [List.map_cons, lookup_cons_eq, lookup_cons_eq, ih]
    split <;> rfl

end Lookups

end Scaffold
