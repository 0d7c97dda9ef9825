import SignalPods.Foundation.RegularExpressions

namespace SignalPods.Foundation

/-- A computation that raises nothing. -/
def Returns {Value : Type} (x : Objc Value) : Prop := ∃ value, x = .ok value

variable {Value Result : Type} {s : NSString}

@[simp] theorem returns_ok (value : Value) : Returns (.ok value : Objc Value) := ⟨value, rfl⟩

@[simp] theorem returns_pure (value : Value) : Returns (pure value : Objc Value) := ⟨value, rfl⟩

@[simp] theorem not_returns_error (exception : NSException) : ¬ Returns (.error exception : Objc Value) := by
  rintro ⟨value, same⟩
  cases same

theorem Returns.bind {x : Objc Value} {f : Value → Objc Result} (first : Returns x)
    (rest : ∀ value, x = .ok value → Returns (f value)) : Returns (x >>= f) := by
  obtain ⟨value, rfl⟩ := first
  exact rest value rfl

theorem Returns.map {x : Objc Value} (f : Value → Result) (first : Returns x) : Returns (x.map f) := by
  obtain ⟨value, rfl⟩ := first
  exact ⟨f value, rfl⟩

theorem Returns.ite {x y : Objc Value} {condition : Prop} [Decidable condition] (yes : condition → Returns x)
    (no : ¬ condition → Returns y) : Returns (if condition then x else y) := by
  by_cases holds : condition
  · rw [if_pos holds]
    exact yes holds
  · rw [if_neg holds]
    exact no holds

theorem bind_eq_ok_iff {x : Objc Value} {f : Value → Objc Result} {result : Result} :
    x >>= f = .ok result ↔ ∃ value, x = .ok value ∧ f value = .ok result := by
  cases x with
  | error exception => simp [bind, Except.bind]
  | ok value => simp [bind, Except.bind]

theorem map_eq_ok_iff {Error A B : Type} {x : Except Error A} {f : A → B} {b : B} :
    x.map f = .ok b ↔ ∃ a, x = .ok a ∧ f a = b := by
  cases x with
  | error exception => simp [Except.map]
  | ok value => simp [Except.map]

/-- A run whose result passes a check returned it. -/
theorem exists_ok_of_any {run : Objc Value} {passes : Value → Bool} (checked : run.toOption.any passes) :
    ∃ value, run = .ok value ∧ passes value := by
  cases run with
  | error exception => cases checked
  | ok value => exact ⟨value, rfl, checked⟩

theorem returns_bind_iff {x : Objc Value} {f : Value → Objc Result} :
    Returns (x >>= f) ↔ ∃ value, x = .ok value ∧ Returns (f value) := by
  cases x with
  | error exception => simp [Returns, bind, Except.bind]
  | ok value => simp [Returns, bind, Except.bind]

theorem returns_substringFromIndex_iff {index : Nat} : Returns (substringFromIndex s index) ↔ index ≤ s.length := by
  unfold substringFromIndex
  split <;> simp_all

theorem returns_substringWithRange_iff {range : NSRange} :
    Returns (substringWithRange s range) ↔ range.Inside s := by
  unfold substringWithRange NSRange.Inside
  split <;> simp_all

theorem returns_substringToIndex_iff {index : Nat} : Returns (substringToIndex s index) ↔ index ≤ s.length := by
  unfold substringToIndex
  split <;> simp_all

theorem returns_characterAtIndex_iff {index : Nat} : Returns (characterAtIndex s index) ↔ index < s.length := by
  by_cases bound : index < s.length
  · obtain ⟨c, found, _⟩ := characterAtIndex_of_lt bound
    simp [found, bound]
  · simp [characterAtIndex_of_le (Nat.not_lt.mp bound), bound]

end SignalPods.Foundation
