import Mathlib.Data.List.OfFn

namespace SignalPods.LibSignal

/-- A Swift error. Only the `SignalError.callbackError` case is told apart. -/
inductive SwiftError (User : Type)
  | callbackError (message : String)
  | other (error : User)
  deriving DecidableEq, Repr

variable {User Result : Type}

def SwiftError.isCallbackError : SwiftError User → Bool
  | .callbackError _ => true
  | .other _ => false

/-- An error on its way to the caller: one that `checkError` made of a native
error, or the one that a certain callback invocation threw. -/
inductive Thrown (User : Type)
  | native (error : SwiftError User)
  | user (invocation : Nat) (error : SwiftError User)
  deriving DecidableEq, Repr

def Thrown.error : Thrown User → SwiftError User
  | .native error => error
  | .user _ error => error

/-- The pattern `SignalError.callbackError(_)`. -/
def Thrown.IsCallbackError (thrown : Thrown User) : Prop := thrown.error.isCallbackError = true

instance : DecidablePred (@Thrown.IsCallbackError User) := fun thrown =>
  inferInstanceAs (Decidable (thrown.error.isCallbackError = true))

structure ErrorHandlingContext (User : Type) where
  error : Option (Thrown User) := none
  deriving DecidableEq, Repr

/-- A thrown error is kept for later, and native code only sees -1. -/
def ErrorHandlingContext.catchCallbackErrors (context : ErrorHandlingContext User)
    (body : Except (Thrown User) Unit) : ErrorHandlingContext User × Int :=
  match body with
  | .ok () => (context, 0)
  | .error error => ({ context with error := some error }, -1)

/-- The end of the native call under `context`, as the caller of
`rethrowCallbackErrors` sees it. -/
def rethrowCallbackErrors (context : ErrorHandlingContext User) (body : Except (Thrown User) Result) :
    Except (Thrown User) Result :=
  match body with
  | .ok result => .ok result
  | .error error =>
    if error.IsCallbackError then
      match context.error with
      | some kept => .error kept
      | none => .error error
    else .error error

/-- The wrappers of `DataStoreUtils`. Each hands its store to native code with
an `ErrorHandlingContext` of its own. -/
inductive StoreWrapper
  | withIdentityKeyStore
  | withPreKeyStore
  | withSignedPreKeyStore
  | withKyberPreKeyStore
  | withSessionStore
  | withSenderKeyStore
  deriving DecidableEq, Repr

/-- The wrappers around one native call, the innermost first. -/
abbrev Nesting := List StoreWrapper

def signalEncrypt : Nesting := [.withIdentityKeyStore, .withSessionStore]

def signalDecryptPreKey : Nesting :=
  [.withKyberPreKeyStore, .withSignedPreKeyStore, .withPreKeyStore, .withIdentityKeyStore, .withSessionStore]

/-- Native code calls a store's callback, which returns or throws. -/
structure CallbackInvocation (User : Type) (nesting : Nesting) where
  level : Fin nesting.length
  thrown : Option (SwiftError User)
  deriving DecidableEq, Repr

inductive NativeEnd (User Result : Type)
  | success (result : Result)
  | callbackError (message : String) (cause : Nat)
  | otherError (error : User)
  deriving DecidableEq, Repr

def NativeEnd.result : NativeEnd User Result → Except (Thrown User) Result
  | .success result => .ok result
  | .callbackError message _ => .error (.native (.callbackError message))
  | .otherError error => .error (.native (.other error))

/-- What the native call does inside its wrappers: the callbacks it invokes, in
order, and how it ends. A callback error has a failed callback as its cause. -/
structure NativeRun (User Result : Type) (nesting : Nesting) where
  invocations : List (CallbackInvocation User nesting)
  finished : NativeEnd User Result
  caused : ∀ message cause, finished = .callbackError message cause →
    ∃ invocation error, invocations[cause]? = some invocation ∧ invocation.thrown = some error

namespace NativeRun

variable {nesting : Nesting}

/-- What the invocation with this number throws. -/
def body (invocation : CallbackInvocation User nesting) (number : Nat) : Except (Thrown User) Unit :=
  match invocation.thrown with
  | none => .ok ()
  | some error => .error (.user number error)

/-- One callback goes through the context of its own wrapper. -/
def invoke (contexts : Fin nesting.length → ErrorHandlingContext User)
    (invoked : CallbackInvocation User nesting × Nat) : Fin nesting.length → ErrorHandlingContext User :=
  Function.update contexts invoked.1.level
    ((contexts invoked.1.level).catchCallbackErrors (body invoked.1 invoked.2)).1

def contexts (run : NativeRun User Result nesting) : Fin nesting.length → ErrorHandlingContext User :=
  run.invocations.zipIdx.foldl invoke fun _ => {}

/-- The whole call: its end passes the wrappers from the inside out. -/
def call (run : NativeRun User Result nesting) : Except (Thrown User) Result :=
  (List.ofFn run.contexts).foldl (fun body context => rethrowCallbackErrors context body) run.finished.result

end NativeRun

end SignalPods.LibSignal
