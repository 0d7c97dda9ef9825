import Mathlib.Logic.Function.Basic
import SignalPods.Machine.Reach
import SignalPods.Machine.History
import SignalPods.RingRTC.CallContext

namespace SignalPods.RingRTC
open Machine

inductive CallManagerEvent
  | ringingLocal | ringingRemote | connectedLocal | connectedRemote
  | remoteAudioEnable | remoteAudioDisable | remoteVideoEnable | remoteVideoDisable
  | remoteSharingScreenEnable | remoteSharingScreenDisable
  | reconnecting | reconnected
  | glareHandlingFailure | receivedOfferExpired | receivedOfferWhileActive | receivedOfferWithGlare
  deriving DecidableEq, Repr

inductive CallManagerError
  | apiFailed (description : String)
  deriving DecidableEq, Repr

/-- The manager as far as the audio of 1:1 calls goes, with what it told native
code and the delegate, oldest first. -/
structure CallManager where
  isAudioEnabled : Bool := true
  contexts : List CallContext := []
  capturerDelegate : Nat → Option Nat := fun _ => none
  /-- Arguments passed to `ringrtcSetAudioEnable`. -/
  audioEnable : List Bool := []
  failDebug : List String := []
  delegateEvents : List CallManagerEvent := []

namespace CallManager

/-- Native code may refuse the new context; it was created all the same. -/
def proceed (m : CallManager) (media : FactoryMedia) (videoCaptureController : Nat) (accepted : Bool) :
    CallManager × Except CallManagerError Unit :=
  ({ m with
      contexts := m.contexts ++ [CallContext.init media videoCaptureController]
      capturerDelegate := Function.update m.capturerDelegate videoCaptureController (some media.videoSource) },
    if accepted then .ok () else .error (.apiFailed "proceed() function failure"))

/-- `active` is what `ringrtcGetActiveCallContext` returns: one of the contexts
made so far, or nil. -/
def setLocalAudioEnabled (m : CallManager) (enabled : Bool) (active : Option Nat) : CallManager :=
  match active.bind fun i => m.contexts[i]?.map (i, ·) with
  | none =>
    -- returns before `isAudioEnabled` is written
    if enabled then
      { m with failDebug := m.failDebug ++ ["Can't enable audio on non-existent context"] }
    else m
  | some (i, context) =>
    { m with
      contexts := m.contexts.set i (context.setAudioEnabled enabled)
      audioEnable := m.audioEnable ++ [enabled]
      isAudioEnabled := enabled }

/-- The task `onEvent` puts on the main actor. -/
def onEvent (m : CallManager) (event : CallManagerEvent) (delegateAlive : Bool) (active : Option Nat) :
    CallManager :=
  if delegateAlive then
    let m := if event = .connectedRemote then m.setLocalAudioEnabled m.isAudioEnabled active else m
    { m with delegateEvents := m.delegateEvents ++ [event] }
  else m

inductive Action
  | setLocalAudioEnabled (enabled : Bool) (active : Option Nat)
  | proceed (media : FactoryMedia) (videoCaptureController : Nat) (accepted : Bool)
  | onEvent (event : CallManagerEvent) (delegateAlive : Bool) (active : Option Nat)

def step (m : CallManager) : Action → CallManager
  | .setLocalAudioEnabled enabled active => m.setLocalAudioEnabled enabled active
  | .proceed media videoCaptureController accepted => (m.proceed media videoCaptureController accepted).1
  | .onEvent event delegateAlive active => m.onEvent event delegateAlive active

def run (actions : List Action) : CallManager := actions.foldl step {}

theorem setLocalAudioEnabled_found {m : CallManager} {i : Nat} {context : CallContext}
    (found : m.contexts[i]? = some context) (enabled : Bool) :
    m.setLocalAudioEnabled enabled (some i) =
      { m with
        contexts := m.contexts.set i (context.setAudioEnabled enabled)
        audioEnable := m.audioEnable ++ [enabled]
        isAudioEnabled := enabled } := by
  simp [setLocalAudioEnabled, found]

/-- A call either writes all three copies or, without a context, none. -/
theorem setLocalAudioEnabled_cases (m : CallManager) (enabled : Bool) (active : Option Nat) :
    (∃ i, active = some i ∧ i < m.contexts.length ∧
      (m.setLocalAudioEnabled enabled active).isAudioEnabled = enabled ∧
      (m.setLocalAudioEnabled enabled active).contexts.length = m.contexts.length) ∨
    ((∀ i, active = some i → m.contexts.length ≤ i) ∧
      (m.setLocalAudioEnabled enabled active).isAudioEnabled = m.isAudioEnabled ∧
      (m.setLocalAudioEnabled enabled active).contexts = m.contexts) := by
  cases active with
  | none =>
    refine Or.inr ⟨by simp, ?_⟩
    simp only [setLocalAudioEnabled, Option.bind_none]
    split <;> exact ⟨rfl, rfl⟩
  | some i =>
    by_cases inside : i < m.contexts.length
    · have found := List.getElem?_eq_getElem inside
      rw [setLocalAudioEnabled_found found]
      exact Or.inl ⟨i, rfl, inside, rfl, List.length_set⟩
    · have absent : m.contexts[i]? = none := List.getElem?_eq_none (Nat.le_of_not_lt inside)
      refine Or.inr ⟨by rintro _ ⟨⟩; omega, ?_⟩
      simp only [setLocalAudioEnabled, Option.bind_some, absent, Option.map_none]
      split <;> exact ⟨rfl, rfl⟩

end CallManager

end SignalPods.RingRTC
