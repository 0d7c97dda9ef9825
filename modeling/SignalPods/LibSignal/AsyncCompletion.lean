import SignalPods.LibSignal.Completer

namespace SignalPods.LibSignal

/-- What the caller of an async function should get. -/
def NativeFunction.expected {Error Value : Type} : NativeFunction Error Value → Except (SignalError Error) Value
  | .fails error => .error (.native error)
  | .completes (some error) _ => .error (.native error)
  | .completes none (some value) => .ok value
  | .completes none none => .error (.internalError "produced neither an error nor a value")

namespace InvokeAsyncFunction

open Machine

variable {Error Value : Type} {native : NativeFunction Error Value} {h : Invocation Error Value}

/-- The references to the completer that the invocation itself has. -/
def Main.holds : Main Error → Nat
  | .begin | .done => 0
  | _ => 1

/-- The reference the promise struct has, or the callback took over. -/
def Callback.holds : Callback → Nat
  | .returned => 0
  | _ => 1

def Callback.resumed (result : Except (SignalError Error) Value) :
    Callback → List (Except (SignalError Error) Value)
  | .pending | .taken => []
  | .completed | .returned => [result]

theorem completeUnsafe_expected (error : Option Error) (value : Option Value) :
    completeUnsafe error value = (NativeFunction.completes error value).expected := by
  cases error <;> cases value <;> rfl

/-- The reachable states: a start, the ways of a native function that refuses,
and all the ways of one that calls back. -/
inductive Known (native : NativeFunction Error Value) (h : Invocation Error Value) : Prop
  | begin : h = {} → Known native h
  | made : h.main = .made → h.callback = .pending → h.completer.Counted 1 → h.retained.deeds = [] →
      h.resumed = [] → Known native h
  | refusing (error : Error) : native = .fails error → h.main = .calling ∨ h.main = .failed error →
      h.callback = .pending → h.completer.Counted 2 → h.retained.Open → h.resumed = [] → Known native h
  | cleanedUp (error : Error) : native = .fails error → h.main = .cleanedUp error → h.callback = .pending →
      h.completer.Counted 1 → h.retained.Closed → h.resumed = [] → Known native h
  | refused (error : Error) : native = .fails error → h.main = .leaving ∨ h.main = .done → h.callback = .pending →
      h.completer.Counted h.main.holds → h.retained.Closed → h.resumed = [native.expected] → Known native h
  | running (error : Option Error) (value : Option Value) : native = .completes error value →
      h.main = .calling ∨ h.main = .started ∨ h.main = .leaving ∨ h.main = .done →
      h.completer.Counted (h.main.holds + h.callback.holds) → (h.callback ≠ .returned → h.retained.Open) →
      (h.callback = .returned → h.retained.Closed) → h.resumed = h.callback.resumed native.expected →
      Known native h

theorem Known.step_main {h' : Invocation Error Value} (known : Known native h) (step : stepMain native h = some h') :
    Known native h' := by
  unfold stepMain at step
  cases known with
  | begin fresh =>
    subst fresh
    cases step
    exact .made rfl rfl (Account.counted_create rfl) rfl rfl
  | made main callback completer retained resumed =>
    simp only [main] at step
    cases step
    cases native with
    | fails error =>
      exact .refusing error rfl (Or.inl rfl) callback completer.use.retain (Account.give_open retained) resumed
    | completes error value =>
      refine .running error value rfl (Or.inl rfl) ?_ (fun _ => Account.give_open retained) ?_ ?_
      · have held : h.callback.holds = 1 := by rw [callback]; rfl
        show Account.Counted _ (1 + h.callback.holds)
        rw [held]
        exact completer.use.retain
      · simp [callback]
      · simp [callback, resumed, Callback.resumed]
  | refusing error fails main callback completer retained resumed =>
    subst fails
    rcases main with main | main
    · simp only [main] at step
      cases step
      exact .refusing error rfl (Or.inr rfl) callback completer retained resumed
    · simp only [main] at step
      cases step
      exact .cleanedUp error rfl rfl callback completer.drop retained.release resumed
  | cleanedUp error fails main callback completer retained resumed =>
    subst fails
    simp only [main] at step
    cases step
    exact .refused error rfl (Or.inl rfl) callback completer.use retained (by rw [resumed]; rfl)
  | refused error fails main callback completer retained resumed =>
    rcases main with main | main
    · simp only [main] at step completer
      cases step
      exact .refused error fails (Or.inr rfl) callback completer.drop retained resumed
    · simp [main] at step
  | running error value completes main completer isOpen closed resumed =>
    subst completes
    rcases main with main | main | main | main
    · simp only [main] at step completer
      cases step
      exact .running error value rfl (Or.inr (Or.inl rfl)) completer isOpen closed resumed
    · simp only [main] at step completer
      cases step
      exact .running error value rfl (Or.inr (Or.inr (Or.inl rfl))) completer isOpen closed resumed
    · simp only [main] at step completer
      cases step
      refine .running error value rfl (Or.inr (Or.inr (Or.inr rfl))) ?_ isOpen closed resumed
      have less := Nat.add_comm 1 h.callback.holds ▸ completer
      simpa only [Main.holds, Nat.zero_add] using less.drop
    · simp [main] at step

theorem Known.step_callback {h' : Invocation Error Value} (known : Known native h)
    (step : stepCallback native h = some h') : Known native h' := by
  unfold stepCallback at step
  cases known with
  | begin fresh =>
    subst fresh
    cases native <;> simp [Main.called] at step
  | made main =>
    cases native <;> simp [main, Main.called] at step
  | refusing error fails => simp [fails] at step
  | cleanedUp error fails => simp [fails] at step
  | refused error fails => simp [fails] at step
  | running error value completes main completer isOpen closed resumed =>
    subst completes
    have called : h.main.called = true := by rcases main with main | main | main | main <;> rw [main] <;> rfl
    simp only [called, if_true] at step
    cases callback : h.callback with
    | pending =>
      simp only [callback] at step completer resumed
      cases step
      exact .running error value rfl main completer (fun _ => (isOpen (by simp [callback])).use) (by simp) resumed
    | taken =>
      simp only [callback] at step completer resumed
      cases step
      refine .running error value rfl main completer.use (fun _ => (isOpen (by simp [callback])).use) (by simp) ?_
      rw [resumed, completeUnsafe_expected]
      rfl
    | completed =>
      simp only [callback] at step completer resumed
      cases step
      exact .running error value rfl main completer.drop (by simp)
        (fun _ => (isOpen (by simp [callback])).release) resumed
    | returned => simp [callback] at step

theorem known_of_reach {threads : List Thread} (reach : Reach (Step native) {} threads h) : Known native h := by
  refine reach.invariant (fun _ h => Known native h) (.begin rfl) ?_
  intro _ _ thread _ _ known step
  cases thread with
  | main => exact known.step_main step
  | callback => exact known.step_callback step

/-- What an invocation promises, whatever native code does and in whatever
order. It is finished when neither thread has a step left, and no run is longer
than nine steps. -/
structure CompletesOnce (native : NativeFunction Error Value) (threads : List Thread) (h : Invocation Error Value) :
    Prop where
  notTwice : h.resumed = [] ∨ h.resumed = [native.expected]
  released : h.retained.deeds = [] ∨ h.retained.Open ∨ h.retained.Closed
  alive : h.completer.deeds = [] ∨ h.completer.Open ∨ h.completer.Closed
  finished : (∀ thread, next native h thread = none) →
    h.resumed = [native.expected] ∧ h.retained.Closed ∧ h.completer.Closed
  bounded : threads.length ≤ 9

theorem Known.finished (known : Known native h) (idle : ∀ thread, next native h thread = none) :
    h.resumed = [native.expected] ∧ h.retained.Closed ∧ h.completer.Closed := by
  have noMain : stepMain native h = none := idle .main
  have noCallback : stepCallback native h = none := idle .callback
  unfold stepMain at noMain
  unfold stepCallback at noCallback
  cases known with
  | begin fresh => simp [fresh] at noMain
  | made main => simp [main] at noMain
  | refusing error fails main => rcases main with main | main <;> simp [main, fails] at noMain
  | cleanedUp error fails main => simp [main] at noMain
  | refused error fails main callback completer retained resumed =>
    rcases main with main | main
    · simp [main] at noMain
    · rw [main] at completer
      exact ⟨resumed, retained, completer.gone rfl⟩
  | running error value completes main completer isOpen closed resumed =>
    subst completes
    rcases main with main | main | main | main
    · simp [main] at noMain
    · simp [main] at noMain
    · simp [main] at noMain
    · cases callback : h.callback with
      | pending | taken | completed => simp [main, Main.called, callback] at noCallback
      | returned =>
        rw [main, callback] at completer
        rw [callback] at resumed
        exact ⟨resumed, closed callback, completer.gone rfl⟩

/-- The steps a thread has left. -/
def Main.rest : Main Error → Nat
  | .begin => 6
  | .made => 5
  | .calling => 4
  | .failed _ => 3
  | .cleanedUp _ | .started => 2
  | .leaving => 1
  | .done => 0

def Callback.rest : Callback → Nat
  | .pending => 3
  | .taken => 2
  | .completed => 1
  | .returned => 0

theorem step_rest {h' : Invocation Error Value} {thread : Thread} (step : Step native h thread h') :
    h'.main.rest + h'.callback.rest < h.main.rest + h.callback.rest := by
  cases thread with
  | main =>
    simp only [Step, next, stepMain] at step
    cases main : h.main <;> simp only [main] at step
    case calling => cases native <;> cases step <;> simp [Main.rest]
    all_goals cases step
    all_goals simp [Main.rest]
  | callback =>
    simp only [Step, next, stepCallback] at step
    cases native with
    | fails error => cases step
    | completes error value =>
      obtain ⟨_, step⟩ := Option.ite_none_right_eq_some.mp step
      cases callback : h.callback <;> simp only [callback] at step <;> cases step <;> simp [Callback.rest]

theorem reach_rest {threads : List Thread} (reach : Reach (Step native) {} threads h) :
    threads.length + (h.main.rest + h.callback.rest) ≤ 9 := by
  induction reach with
  | start => exact Nat.le_refl 9
  | next _ step ih =>
    have less := step_rest step
    rw [List.length_append, List.length_singleton]
    omega

theorem Callback.resumed_cases (result : Except (SignalError Error) Value) (callback : Callback) :
    callback.resumed result = [] ∨ callback.resumed result = [result] := by
  cases callback <;> simp [Callback.resumed]

theorem Known.resumed_cases (known : Known native h) : h.resumed = [] ∨ h.resumed = [native.expected] := by
  cases known with
  | begin fresh => exact Or.inl (by rw [fresh])
  | made _ _ _ _ resumed => exact Or.inl resumed
  | refusing _ _ _ _ _ _ resumed => exact Or.inl resumed
  | cleanedUp _ _ _ _ _ _ resumed => exact Or.inl resumed
  | refused _ _ _ _ _ _ resumed => exact Or.inr resumed
  | running _ _ _ _ _ _ _ resumed =>
    have either := h.callback.resumed_cases native.expected
    rwa [← resumed] at either

theorem Known.retained_cases (known : Known native h) :
    h.retained.deeds = [] ∨ h.retained.Open ∨ h.retained.Closed := by
  cases known with
  | begin fresh => exact Or.inl (by rw [fresh])
  | made _ _ _ retained => exact Or.inl retained
  | refusing _ _ _ _ _ isOpen => exact Or.inr (Or.inl isOpen)
  | cleanedUp _ _ _ _ _ closed => exact Or.inr (Or.inr closed)
  | refused _ _ _ _ _ closed => exact Or.inr (Or.inr closed)
  | running _ _ _ _ _ isOpen closed =>
    by_cases returned : h.callback = .returned
    · exact Or.inr (Or.inr (closed returned))
    · exact Or.inr (Or.inl (isOpen returned))

theorem Known.completer_cases (known : Known native h) :
    h.completer.deeds = [] ∨ h.completer.Open ∨ h.completer.Closed := by
  cases known with
  | begin fresh => exact Or.inl (by rw [fresh])
  | made _ _ counted => exact Or.inr counted.open_or_closed
  | refusing _ _ _ _ counted => exact Or.inr counted.open_or_closed
  | cleanedUp _ _ _ _ counted => exact Or.inr counted.open_or_closed
  | refused _ _ _ _ counted => exact Or.inr counted.open_or_closed
  | running _ _ _ _ counted => exact Or.inr counted.open_or_closed

/-- Whatever native code does and whenever it calls back, the continuation is
resumed exactly once with the result it should have, and the reference made for
the callback is given back exactly once and not used after. -/
theorem completesOnce_of_reach {threads : List Thread} (reach : Reach (Step native) {} threads h) :
    CompletesOnce native threads h := by
  have known := known_of_reach reach
  have rest := reach_rest reach
  have bounded : threads.length ≤ 9 := by omega
  exact ⟨known.resumed_cases, known.retained_cases, known.completer_cases, known.finished, bounded⟩

/-- The callback fires inside the start call, with neither an error nor a value. -/
theorem completesOnce_inside :
    let threads : List Thread := [.main, .main, .callback, .callback, .callback, .main, .main, .main]
    ∃ h, threads.foldlM (next (.completes none none : NativeFunction String Nat)) {} = some h ∧
      CompletesOnce (.completes none none) threads h := by
  intro threads
  have run : threads.foldlM (next (.completes none none : NativeFunction String Nat)) {} = some _ := rfl
  exact ⟨_, run, completesOnce_of_reach (reach_of_foldlM run)⟩

end InvokeAsyncFunction

end SignalPods.LibSignal
