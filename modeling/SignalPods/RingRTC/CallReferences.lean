import SignalPods.RingRTC.CallManagerAudio

namespace SignalPods.RingRTC

open Machine

/-- The callbacks that carry the pointer to a call object. -/
inductive CallObserver
  | onStartCall
  | onCallEnded
  | onEvent (event : CallManagerEvent)
  | onNetworkRouteChangedFor
  | onAudioLevelsFor
  | onLowBandwidthForVideoFor
  | onSendOffer
  | onSendAnswer
  | onSendIceCandidates
  | onSendHangup
  | onSendBusy
  | onConnectMedia (videoTracks : Nat)
  | onCallConcluded
  deriving DecidableEq, Repr

/-- The methods that hand a call object to RingRTC. -/
inductive CallApi
  | placeCall
  | receivedOffer
  deriving DecidableEq, Repr

def CallApi.failure : CallApi → CallManagerError
  | .placeCall => .apiFailed "call() function failure"
  | .receivedOffer => .apiFailed "receivedOffer() function failure"

/-- One call of such a method, and what RingRTC has said about it: `returned`
is whether it accepted the call object, once it answered. -/
structure HandedCall where
  api : CallApi
  remote : Nat
  returned : Option Bool := none
  reported : Bool := false
  concluded : Bool := false
  deriving DecidableEq, Repr

/-- A task for the main actor, with the call it is about. -/
structure CallTask where
  observer : CallObserver
  call : Nat
  remote : Nat
  deriving DecidableEq, Repr

def CallTask.concludes (task : CallTask) : Prop := task.observer = .onCallConcluded

instance (task : CallTask) : Decidable task.concludes := inferInstanceAs (Decidable (_ = _))

/-- The manager, the main actor and RingRTC. Call objects are numbers. -/
structure CallReferences where
  /-- Retains less releases of each object by the manager. -/
  retainCount : Nat → Int := fun _ => 0
  calls : List HandedCall := []
  /-- The API call that the main actor executes. -/
  executing : Option Nat := none
  /-- The tasks that wait, in the order they were enqueued. -/
  tasks : List CallTask := []
  /-- The task whose delegate method runs. -/
  running : Option CallTask := none
  /-- What each `takeUnretainedValue` on the main actor saw: the pointer and
  the retain count at that time. -/
  taken : List (Nat × Int) := []
  results : List (Except CallManagerError Unit) := []
  failDebug : List String := []

inductive CallEvent
  | enter (api : CallApi) (remote : Nat)
  | returns (accepted : Bool)
  | reports (call : Nat) (observer : CallObserver)
  | run (delegateAlive : Bool)
  | delegateReturns
  deriving DecidableEq, Repr

namespace CallReferences

variable (s : CallReferences)

def retain (remote : Nat) : CallReferences :=
  { s with retainCount := Function.update s.retainCount remote (s.retainCount remote + 1) }

def release (remote : Nat) : CallReferences :=
  { s with retainCount := Function.update s.retainCount remote (s.retainCount remote - 1) }

def takeUnretainedValue (remote : Nat) : CallReferences :=
  { s with taken := s.taken ++ [(remote, s.retainCount remote)] }

/-- `placeCall` and `receivedOffer` up to the native call. -/
def enter (api : CallApi) (remote : Nat) : Option CallReferences :=
  match s.executing with
  | none => some { s with calls := s.calls ++ [{ api := api, remote := remote }], executing := some s.calls.length }
  | some _ => none

/-- The rest of them. RingRTC reports nothing for a call it refuses. -/
def returns (accepted : Bool) : Option CallReferences :=
  match s.executing with
  | none => none
  | some id =>
    match s.calls[id]? with
    | none => none
    | some call =>
      let answered :=
        { s with calls := s.calls.set id { call with returned := some accepted }, executing := none }
      if accepted then
        -- keep the call reference around until rust says we're done with the call
        some { answered.retain call.remote with results := s.results ++ [.ok ()] }
      else if call.reported then none
      else some { answered with results := s.results ++ [.error call.api.failure] }

/-- An observer of the manager on the thread of the callback. All but two
only put a task on the main actor. -/
def observe (observer : CallObserver) (call remote : Nat) : CallReferences :=
  match observer with
  | .onAudioLevelsFor => s
  | .onConnectMedia 0 => { s with failDebug := s.failDebug ++ ["Missing video stream"] }
  | _ => { s with tasks := s.tasks ++ [{ observer := observer, call := call, remote := remote }] }

/-- RingRTC reports on calls it has not refused, and nothing after
`onCallConcluded`. -/
def reports (id : Nat) (observer : CallObserver) : Option CallReferences :=
  match s.calls[id]? with
  | none => none
  | some call =>
    if call.returned = some false ∨ call.concluded = true then none
    else
      let known := { s with
        calls := s.calls.set id { call with reported := true, concluded := decide (observer = CallObserver.onCallConcluded) } }
      some (known.observe observer id call.remote)

/-- The main actor starts the first task. `onCallConcluded` takes the object
before it looks for the delegate and releases it at the end; the others take it
only for a delegate that is there. -/
def run (delegateAlive : Bool) : Option CallReferences :=
  match s.executing, s.running, s.tasks with
  | none, none, task :: rest =>
    let started := { s with tasks := rest }
    if task.concludes then
      let took := started.takeUnretainedValue task.remote
      some (if delegateAlive then { took with running := some task } else took.release task.remote)
    else
      some (if delegateAlive then { started.takeUnretainedValue task.remote with running := some task } else started)
  | _, _, _ => none

/-- The delegate's method may have called the API before. -/
def delegateReturns : Option CallReferences :=
  match s.executing, s.running with
  | none, some task =>
    let ended := { s with running := none }
    some (if task.concludes then ended.release task.remote else ended)
  | _, _ => none

def next : CallEvent → Option CallReferences
  | .enter api remote => s.enter api remote
  | .returns accepted => s.returns accepted
  | .reports call observer => s.reports call observer
  | .run delegateAlive => s.run delegateAlive
  | .delegateReturns => s.delegateReturns

end CallReferences

end SignalPods.RingRTC
