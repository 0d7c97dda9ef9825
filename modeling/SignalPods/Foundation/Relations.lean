import SignalPods.Foundation.Returns

namespace SignalPods.Foundation

variable {Error A B C D : Type}

/-- Two computations throw the same, or return related values. -/
inductive Related (R : A → B → Prop) : Except Error A → Except Error B → Prop
  | throws (error : Error) : Related R (.error error) (.error error)
  | returns {a : A} {b : B} (related : R a b) : Related R (.ok a) (.ok b)

namespace Related

variable {R : A → B → Prop} {S : C → D → Prop} {x : Except Error A} {y : Except Error B}

theorem mono {T : A → B → Prop} (related : Related R x y) (weaker : ∀ a b, R a b → T a b) : Related T x y := by
  cases related with
  | throws error => exact .throws error
  | returns same => exact .returns (weaker _ _ same)

/-- Computations go on alike from related values. -/
theorem bind {f : A → Except Error C} {g : B → Except Error D} (first : Related R x y)
    (next : ∀ a b, R a b → Related S (f a) (g b)) : Related S (x >>= f) (y >>= g) := by
  cases first with
  | throws error => exact .throws error
  | returns same => exact next _ _ same

theorem map {f : A → C} {g : B → D} (related : Related R x y) (next : ∀ a b, R a b → S (f a) (g b)) :
    Related S (x.map f) (y.map g) := by
  cases related with
  | throws error => exact .throws error
  | returns same => exact .returns (next _ _ same)

/-- The same computation comes first. -/
theorem bind_same {f : A → Except Error C} {g : A → Except Error D} (x : Except Error A)
    (next : ∀ a, Related S (f a) (g a)) : Related S (x >>= f) (x >>= g) := by
  cases x with
  | error error => exact .throws error
  | ok a => exact next a

theorem ite {condition : Prop} [Decidable condition] {x₁ x₂ : Except Error A} {y₁ y₂ : Except Error B}
    (yes : condition → Related R x₁ y₁) (no : ¬ condition → Related R x₂ y₂) :
    Related R (if condition then x₁ else x₂) (if condition then y₁ else y₂) := by
  by_cases holds : condition
  · rw [if_pos holds, if_pos holds]
    exact yes holds
  · rw [if_neg holds, if_neg holds]
    exact no holds

theorem eq {y : Except Error A} {R : A → A → Prop} (related : Related R x y) (same : ∀ a b, R a b → a = b) : x = y := by
  cases related with
  | throws error => rfl
  | returns holds => rw [same _ _ holds]

theorem returns_of_ok {a : A} (related : Related R (.ok a : Except Error A) y) : ∃ b, y = .ok b ∧ R a b := by
  cases related with
  | returns holds => exact ⟨_, rfl, holds⟩

end Related

end SignalPods.Foundation
