import Mathlib.Logic.Basic

namespace SignalPods.LibSignal

variable {Item Error : Type*}

inductive BulkPolledStreamTermination (Error : Type*)
  | finished
  | error (error : Error)

def BulkPolledStreamTermination.asError : BulkPolledStreamTermination Error → Option Error
  | .finished => none
  | .error cause => some cause

/-- The null pointer says that the stream goes on, `MAP_FAILED` that it is
finished, and any other one is an error to be consumed. -/
def BulkPolledStreamTerminationConverter.convertReturn (convertError : Int → Error) (raw : Int) :
    Option (BulkPolledStreamTermination Error) :=
  if raw = 0 then none
  else if raw = -1 then some .finished
  else some (.error (convertError raw))

/-- What awaiting a pull comes to. -/
inductive Pulled (Item Error : Type*)
  | returned (chunk : List Item) (termination : Option (BulkPolledStreamTermination Error))
  | threw (error : Error)

/-- A pull of raw results with the conversion that follows it. -/
def erasedPull (convertError : Int → Error) : Except Error (List Item × Int) → Pulled Item Error
  | .ok (chunk, reason) => .returned chunk (BulkPolledStreamTerminationConverter.convertReturn convertError reason)
  | .error error => .threw error

namespace AsyncIterator

inductive State (Error : Type*)
  | active
  | finished (error : Option Error)

end AsyncIterator

/-- The iterator, with the number of pulls its stream has answered. -/
structure AsyncIterator (Item Error : Type*) where
  state : AsyncIterator.State Error := .active
  currentChunk : List Item := []
  pulls : Nat := 0

/-- How a call of `next()` ends. -/
inductive Next (Item Error : Type*)
  | item (item : Item)
  | nil
  | threw (error : Error)
  | preconditionFailure

namespace AsyncIterator

/-- The two closures given to `advance`. -/
inductive OnBufferEmpty
  | erasedPull
  | preconditionFailure

/-- The `do`/`catch` around a pull. -/
def receive (it : AsyncIterator Item Error) : Pulled Item Error → AsyncIterator Item Error
  | .returned chunk termination =>
    { state := match termination with
        | some termination => .finished termination.asError
        | none => it.state
      currentChunk := chunk
      pulls := it.pulls + 1 }
  | .threw error => { it with state := .finished (some error), pulls := it.pulls + 1 }

/-- `stream n` is the outcome of the pull number `n`. -/
def advance (stream : Nat → Pulled Item Error) (onBufferEmpty : OnBufferEmpty) (it : AsyncIterator Item Error) :
    Next Item Error × AsyncIterator Item Error :=
  match it.currentChunk with
  | next :: rest => (.item next, { it with currentChunk := rest })
  | [] =>
    match it.state with
    | .finished (some error) => (.threw error, it)
    | .finished none => (.nil, it)
    | .active =>
      match onBufferEmpty with
      | .preconditionFailure => (.preconditionFailure, it)
      | .erasedPull => advance stream .preconditionFailure (it.receive (stream it.pulls))
termination_by match onBufferEmpty with
  | .erasedPull => 1
  | .preconditionFailure => 0

def next (stream : Nat → Pulled Item Error) (it : AsyncIterator Item Error) :
    Next Item Error × AsyncIterator Item Error := it.advance stream .erasedPull

end AsyncIterator

end SignalPods.LibSignal
