import SignalPods.LibSignal.ErrorHandlingContext
import SignalPods.Machine.Handlers
import SignalPods.Machine.History

namespace SignalPods.LibSignal

open Machine

namespace NativeRun

variable {User Result : Type} {nesting : Nesting}

/-- The number and the error of an invocation that fails at `level`. -/
def failureAt (level : Fin nesting.length) (invoked : CallbackInvocation User nesting × Nat) :
    Option (Nat × SwiftError User) :=
  if invoked.1.level = level then invoked.1.thrown.map (Prod.mk invoked.2) else none

/-- The last failure of the store at `level`. -/
def lastFailure (run : NativeRun User Result nesting) (level : Fin nesting.length) :
    Option (Nat × SwiftError User) :=
  latest (failureAt level) run.invocations.zipIdx

/-- What the caller is due: the native result, the error of the invocation that
caused the callback error, or the native error. -/
def due (run : NativeRun User Result nesting) : Except (Thrown User) Result :=
  match run.finished with
  | .success result => .ok result
  | .callbackError message cause =>
    match run.invocations[cause]?.bind CallbackInvocation.thrown with
    | some error => .error (.user cause error)
    | none => .error (.native (.callbackError message))
  | .otherError error => .error (.native (.other error))

/-- The cause is the last failure of its store, the stores inside it last failed
with callback errors if at all, and no store outside it failed when the cause is
itself a callback error. -/
def CauseSpeaks (run : NativeRun User Result nesting) (cause : Nat) : Prop :=
  ∃ level error, run.lastFailure level = some (cause, error) ∧
    (∀ inner number kept, inner < level → run.lastFailure inner = some (number, kept) → kept.isCallbackError = true) ∧
    (error.isCallbackError = true → ∀ outer, level < outer → run.lastFailure outer = none)

/-- A context keeps the error of an invocation that fails, and no other. -/
theorem invoke_error (contexts : Fin nesting.length → ErrorHandlingContext User)
    (invoked : CallbackInvocation User nesting × Nat) (level : Fin nesting.length) :
    (invoke contexts invoked level).error =
      ((failureAt level invoked).map fun failure => .user failure.1 failure.2).or (contexts level).error := by
  unfold invoke failureAt
  by_cases here : invoked.1.level = level
  · subst here
    rw [Function.update_self, if_pos rfl]
    unfold body
    cases invoked.1.thrown with
    | none => rfl
    | some error => rfl
  · rw [Function.update_of_ne (Ne.symm here), if_neg here]
    rfl

/-- A context keeps the last failure of its store. -/
theorem contexts_error (run : NativeRun User Result nesting) (level : Fin nesting.length) :
    (run.contexts level).error = (run.lastFailure level).map fun failure => .user failure.1 failure.2 := by
  unfold contexts lastFailure
  induction run.invocations.zipIdx using List.reverseRecOn with
  | nil => rfl
  | append_singleton invoked last ih =>
    rw [List.foldl_append, List.foldl_cons, List.foldl_nil, latest_concat, invoke_error, ih, Option.map_or]

/-- A last failure is the failure of the invocation with its number. -/
theorem lastFailure_invocation {run : NativeRun User Result nesting} {level : Fin nesting.length} {number : Nat}
    {error : SwiftError User} (last : run.lastFailure level = some (number, error)) :
    ∃ invocation, run.invocations[number]? = some invocation ∧ invocation.level = level ∧
      invocation.thrown = some error := by
  obtain ⟨before, invoked, after, split, carried, _⟩ := (latest_eq_some_iff _).mp last
  have member : invoked ∈ run.invocations.zipIdx := by simp [split]
  obtain ⟨invocation, place⟩ := invoked
  have found := List.mem_zipIdx_iff_getElem?.mp member
  unfold failureAt at carried
  split at carried
  · rename_i here
    cases thrown : invocation.thrown with
    | none => simp [thrown] at carried
    | some raised =>
      simp only [thrown, Option.map_some, Option.some.injEq, Prod.mk.injEq] at carried
      obtain ⟨rfl, rfl⟩ := carried
      exact ⟨invocation, found, here, thrown⟩
  · cases carried

theorem foldl_rethrow_ok (contexts : List (ErrorHandlingContext User)) (result : Result) :
    contexts.foldl (fun body context => rethrowCallbackErrors context body) (.ok result) = .ok result := by
  induction contexts with
  | nil => rfl
  | cons context contexts ih => exact ih

theorem rethrow_error (context : ErrorHandlingContext User) (error : Thrown User) :
    rethrowCallbackErrors context (.error error : Except (Thrown User) Result) =
      .error (if error.IsCallbackError then context.error.getD error else error) := by
  unfold rethrowCallbackErrors
  by_cases catches : error.IsCallbackError
  · cases kept : context.error <;> simp [catches]
  · simp [catches]

/-- The wrappers are nested handlers of callback errors. -/
theorem foldl_rethrow_error (contexts : List (ErrorHandlingContext User)) (error : Thrown User) :
    contexts.foldl (fun body context => rethrowCallbackErrors context body)
        (.error error : Except (Thrown User) Result) =
      .error (unwind Thrown.IsCallbackError (contexts.map ErrorHandlingContext.error) error) := by
  induction contexts generalizing error with
  | nil => rfl
  | cons context contexts ih =>
    rw [List.foldl_cons, rethrow_error, ih]
    rfl

/-- What the contexts keep in the end, from the inside out. -/
def keptErrors (run : NativeRun User Result nesting) : List (Option (Thrown User)) :=
  List.ofFn fun level => (run.lastFailure level).map fun failure => .user failure.1 failure.2

theorem keptErrors_get_iff {run : NativeRun User Result nesting} {j : Nat} {kept : Thrown User} :
    run.keptErrors[j]? = some (some kept) ↔
      ∃ level number error, level.val = j ∧ run.lastFailure level = some (number, error) ∧ kept = .user number error := by
  unfold keptErrors
  rw [List.getElem?_ofFn]
  constructor
  · intro atPlace
    split at atPlace
    · rename_i bound
      rw [Option.some.injEq, Option.map_eq_some_iff] at atPlace
      obtain ⟨failure, last, rfl⟩ := atPlace
      exact ⟨⟨j, bound⟩, failure.1, failure.2, rfl, last, rfl⟩
    · cases atPlace
  · rintro ⟨level, number, error, rfl, last, rfl⟩
    simp [last]

/-- A callback error is replaced as the last failures of the stores say. -/
theorem call_of_callbackError {run : NativeRun User Result nesting} {message : String} {cause : Nat}
    (finished : run.finished = .callbackError message cause) :
    run.call = .error (unwind Thrown.IsCallbackError run.keptErrors (.native (.callbackError message))) := by
  have kept : (List.ofFn run.contexts).map ErrorHandlingContext.error = run.keptErrors := by
    rw [List.map_ofFn]
    congr 1
    funext level
    exact run.contexts_error level
  unfold call
  rw [finished, NativeEnd.result, foldl_rethrow_error, kept]

/-- Only the store of an invocation can keep its error. -/
theorem lastFailure_unique {run : NativeRun User Result nesting} {level other : Fin nesting.length} {number : Nat}
    {error raised : SwiftError User} (last : run.lastFailure level = some (number, error))
    (again : run.lastFailure other = some (number, raised)) : other = level ∧ raised = error := by
  obtain ⟨invocation, found, atLevel, thrown⟩ := lastFailure_invocation last
  obtain ⟨invocation', found', atOther, thrown'⟩ := lastFailure_invocation again
  cases Option.some.inj (found.symm.trans found')
  exact ⟨atOther.symm.trans atLevel, Option.some.inj (thrown'.symm.trans thrown)⟩

/-- When its store ends with the cause's error, the wrappers let that error out
as long as it is not covered on the way. -/
theorem unwind_keptErrors_iff {run : NativeRun User Result nesting} {level : Fin nesting.length} {cause : Nat}
    {error : SwiftError User} {message : String} (last : run.lastFailure level = some (cause, error)) :
    unwind Thrown.IsCallbackError run.keptErrors (.native (.callbackError message)) = .user cause error ↔
      (∀ inner number kept, inner < level → run.lastFailure inner = some (number, kept) →
        kept.isCallbackError = true) ∧
      (error.isCallbackError = true → ∀ outer, level < outer → run.lastFailure outer = none) := by
  have here : run.keptErrors[level.val]? = some (some (.user cause error)) :=
    keptErrors_get_iff.mpr ⟨level, cause, error, rfl, last, rfl⟩
  have alone : ∀ j, run.keptErrors[j]? = some (some (.user cause error)) → j = level.val := by
    intro j atPlace
    obtain ⟨other, number, raised, rfl, again, same⟩ := keptErrors_get_iff.mp atPlace
    cases same
    rw [(lastFailure_unique last again).1]
  have catches : (Thrown.native (.callbackError message) : Thrown User).IsCallbackError := rfl
  have different : (Thrown.native (.callbackError message) : Thrown User) ≠ .user cause error := by
    intro same
    cases same
  rw [unwind_eq_get_iff catches here alone different]
  constructor
  · rintro ⟨inside, outside⟩
    constructor
    · intro inner number kept before failed
      exact inside inner (.user number kept) before (keptErrors_get_iff.mpr ⟨inner, number, kept, rfl, failed, rfl⟩)
    · intro again outer after
      cases failed : run.lastFailure outer with
      | none => rfl
      | some failure =>
        exact absurd (keptErrors_get_iff.mpr ⟨outer, failure.1, failure.2, rfl, failed, rfl⟩)
          (outside again outer _ after)
  · rintro ⟨inside, outside⟩
    constructor
    · intro j other before atPlace
      obtain ⟨inner, number, kept, rfl, failed, rfl⟩ := keptErrors_get_iff.mp atPlace
      exact inside inner number kept before failed
    · intro again j other after atPlace
      obtain ⟨outer, number, kept, rfl, failed, rfl⟩ := keptErrors_get_iff.mp atPlace
      rw [outside again outer after] at failed
      cases failed

/-- The error of a failed cause comes out exactly when the cause speaks. -/
theorem unwind_cause_iff {run : NativeRun User Result nesting} {cause : Nat} {error : SwiftError User}
    {message : String} {invocation : CallbackInvocation User nesting}
    (found : run.invocations[cause]? = some invocation) (raised : invocation.thrown = some error) :
    unwind Thrown.IsCallbackError run.keptErrors (.native (.callbackError message)) = .user cause error ↔
      run.CauseSpeaks cause := by
  constructor
  · intro comesOut
    rcases unwind_origin Thrown.IsCallbackError run.keptErrors (.native (.callbackError message)) with same | kept
    · rw [same] at comesOut
      cases comesOut
    · rw [comesOut] at kept
      obtain ⟨j, atPlace⟩ := List.mem_iff_getElem?.mp kept
      obtain ⟨level, number, other, _, last, same⟩ := keptErrors_get_iff.mp atPlace
      cases same
      exact ⟨level, error, last, (unwind_keptErrors_iff last).mp comesOut⟩
  · rintro ⟨level, other, last, uncovered⟩
    obtain ⟨invocation', found', _, thrown⟩ := lastFailure_invocation last
    cases Option.some.inj (found.symm.trans found')
    cases Option.some.inj (raised.symm.trans thrown)
    exact (unwind_keptErrors_iff last).mpr uncovered

/-- The caller gets what it is due exactly when the cause of a callback error
has the last word in the stores' contexts. -/
theorem call_eq_due_iff (run : NativeRun User Result nesting) :
    run.call = run.due ↔ ∀ message cause, run.finished = .callbackError message cause → run.CauseSpeaks cause := by
  cases finished : run.finished with
  | success result =>
    have returned : run.call = run.due := by
      simp only [call, due, finished, NativeEnd.result, foldl_rethrow_ok]
    simp [returned]
  | otherError error =>
    have passes : ¬ (Thrown.native (.other error)).IsCallbackError := Bool.noConfusion
    have thrown : run.call = run.due := by
      simp only [call, due, finished, NativeEnd.result, foldl_rethrow_error, unwind_of_not_caught passes]
    simp [thrown]
  | callbackError message cause =>
    obtain ⟨invocation, error, found, raised⟩ := run.caused message cause finished
    have owed : run.due = .error (.user cause error) := by simp [due, finished, found, raised]
    rw [call_of_callbackError finished, owed, Except.error.injEq, unwind_cause_iff found raised]
    constructor
    · intro speaks message' cause' same
      cases same
      exact speaks
    · intro speaks
      exact speaks message cause rfl

end NativeRun

/-- `signalEncrypt` goes on after its identity store failed, and then its
session store fails. -/
def identityThenSession : NativeRun Nat Unit signalEncrypt :=
  { invocations :=
      [{ level := ⟨0, by decide⟩, thrown := some (.other 10) }, { level := ⟨1, by decide⟩, thrown := some (.other 11) }]
    finished := .callbackError "store_session" 1
    caused := by
      rintro message cause same
      cases same
      exact ⟨_, _, rfl, rfl⟩ }

/-- The caller gets the recovered error of the identity store. -/
theorem identityThenSession_not_due :
    identityThenSession.call = .error (.user 0 (.other 10)) ∧ identityThenSession.call ≠ identityThenSession.due := by
  decide

end SignalPods.LibSignal
