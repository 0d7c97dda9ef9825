import SignalPods.Machine.Ledger
import SignalPods.Machine.Reach

namespace SignalPods.LibSignal

open Machine

variable {Error Value : Type}

/-- What a resumed continuation throws. -/
inductive SignalError (Error : Type)
  | native (error : Error)
  | internalError (message : String)
  deriving DecidableEq, Repr

def checkError : Option Error → Except (SignalError Error) Unit
  | some error => .error (.native error)
  | none => .ok ()

/-- The result `completeUnsafe` resumes its continuation with. -/
def completeUnsafe (error : Option Error) (valuePtr : Option Value) : Except (SignalError Error) Value := do
  checkError error
  match valuePtr with
  | none => .error (.internalError "produced neither an error nor a value")
  | some value => .ok value

/-- What native code does: it either refuses to start, and never calls back,
or starts and calls back exactly once. -/
inductive NativeFunction (Error Value : Type)
  | fails (error : Error)
  | completes (error : Option Error) (value : Option Value)

namespace InvokeAsyncFunction

/-- Where `invokeAsyncFunction` stands. -/
inductive Main (Error : Type)
  | begin
  | made
  | calling
  | failed (error : Error)
  | cleanedUp (error : Error)
  | started
  | leaving
  | done

/-- Where the promise callback stands, on whatever thread it runs. -/
inductive Callback
  | pending
  | taken
  | completed
  | returned
  deriving DecidableEq, Repr

/-- One invocation. `retained` is the reference the promise struct carries as
its context, `completer` the object with all its strong references. -/
structure Invocation (Error Value : Type) where
  main : Main Error := .begin
  callback : Callback := .pending
  completer : Account := {}
  retained : Account := {}
  /-- The results the continuation was resumed with. -/
  resumed : List (Except (SignalError Error) Value) := []

inductive Thread
  | main | callback
  deriving DecidableEq, Repr

/-- One step of `invokeAsyncFunction` itself. -/
def stepMain (native : NativeFunction Error Value) (h : Invocation Error Value) : Option (Invocation Error Value) :=
  match h.main with
  | .begin => some { h with main := .made, completer := h.completer.give.retain }
  | .made =>
    -- makePromiseStruct
    some { h with main := .calling, completer := h.completer.use.retain, retained := h.retained.give }
  | .calling =>
    match native with
    | .fails error => some { h with main := .failed error }
    | .completes _ _ => some { h with main := .started }
  | .failed error =>
    -- cleanUpUncompletedPromiseStruct
    some { h with main := .cleanedUp error, completer := h.completer.drop, retained := h.retained.release }
  | .cleanedUp error =>
    some { h with
      main := .leaving
      completer := h.completer.use
      resumed := h.resumed ++ [completeUnsafe (some error) none] }
  | .started => some { h with main := .leaving }
  | .leaving => some { h with main := .done, completer := h.completer.drop }
  | .done => none

/-- Native code has the promise struct as soon as it is called, and may call
back before it returns. -/
def Main.called : Main Error → Bool
  | .begin | .made => false
  | _ => true

/-- One step of the promise callback. -/
def stepCallback (native : NativeFunction Error Value) (h : Invocation Error Value) : Option (Invocation Error Value) :=
  match native with
  | .fails _ => none
  | .completes error value =>
    if h.main.called then
      match h.callback with
      | .pending =>
        -- takeRetainedValue
        some { h with callback := .taken, retained := h.retained.use }
      | .taken =>
        some { h with
          callback := .completed
          completer := h.completer.use
          retained := h.retained.use
          resumed := h.resumed ++ [completeUnsafe error value] }
      | .completed =>
        some { h with callback := .returned, completer := h.completer.drop, retained := h.retained.release }
      | .returned => none
    else none

def next (native : NativeFunction Error Value) (h : Invocation Error Value) : Thread → Option (Invocation Error Value)
  | .main => stepMain native h
  | .callback => stepCallback native h

def Step (native : NativeFunction Error Value) (h : Invocation Error Value) (thread : Thread)
    (h' : Invocation Error Value) : Prop := next native h thread = some h'

end InvokeAsyncFunction

end SignalPods.LibSignal
