import SignalPods.RingRTC.CallManagerAudio

namespace SignalPods.RingRTC.CallManager
open Machine

def Action.requested? : Action → Option Bool
  | .setLocalAudioEnabled enabled _ => some enabled
  | _ => none

/-- The application's most recent wish, on if it never said anything. -/
def lastRequested (actions : List Action) : Bool := (latest Action.requested? actions).getD true

/-- Contexts made so far, and the argument of the most recent call that found
one of them active. Reads the actions only. -/
def heardStep : Nat × Bool → Action → Nat × Bool
  | (contexts, heard), .proceed _ _ _ => (contexts + 1, heard)
  | (contexts, heard), .setLocalAudioEnabled enabled active =>
    (contexts, if active.any (· < contexts) then enabled else heard)
  | counted, .onEvent _ _ _ => counted

def lastHeard (actions : List Action) : Bool := (actions.foldl heardStep (0, true)).2

/-- The three copies of the setting that a delivery to context `i` leaves. -/
structure Follows (m : CallManager) (i : Nat) (wanted : Bool) : Prop where
  track : (m.contexts[i]?).map (·.audioTrack.isEnabled) = some wanted
  native : m.audioEnable.getLast? = some wanted
  remembered : m.isAudioEnabled = wanted

theorem onEvent_kept (m : CallManager) (event : CallManagerEvent) (delegateAlive : Bool) (active : Option Nat) :
    (m.onEvent event delegateAlive active).isAudioEnabled = m.isAudioEnabled ∧
      (m.onEvent event delegateAlive active).contexts.length = m.contexts.length := by
  unfold onEvent
  split
  · split
    · rcases m.setLocalAudioEnabled_cases m.isAudioEnabled active with
        ⟨_, _, _, same, length⟩ | ⟨_, same, contexts⟩
      · exact ⟨same, length⟩
      · exact ⟨same, congrArg List.length contexts⟩
    · exact ⟨rfl, rfl⟩
  · exact ⟨rfl, rfl⟩

/-- The manager remembers the last call it heard, not the last one made. -/
theorem run_remembers (actions : List Action) :
    ((run actions).contexts.length, (run actions).isAudioEnabled) = actions.foldl heardStep (0, true) := by
  induction actions using List.reverseRecOn with
  | nil => rfl
  | append_singleton actions action ih =>
    have unfolded : run (actions ++ [action]) = (run actions).step action := by simp [run]
    rw [List.foldl_append, ← ih, unfolded]
    cases action with
    | proceed media videoCaptureController accepted => simp [step, proceed, heardStep]
    | onEvent event delegateAlive active =>
      obtain ⟨same, length⟩ := (run actions).onEvent_kept event delegateAlive active
      simp only [step, List.foldl_cons, List.foldl_nil, heardStep, same, length]
    | setLocalAudioEnabled enabled active =>
      rcases (run actions).setLocalAudioEnabled_cases enabled active with
        ⟨i, rfl, inside, now, length⟩ | ⟨outside, same, contexts⟩
      · simp only [step, List.foldl_cons, List.foldl_nil, heardStep, now, length, Option.any_some,
          decide_eq_true inside, if_true]
      · have unheard : active.any (· < (run actions).contexts.length) = false := by
          cases active with
          | none => rfl
          | some i => simpa using outside i rfl
        simp only [step, List.foldl_cons, List.foldl_nil, heardStep, same, contexts, unheard,
          Bool.false_eq_true, if_false]

/-- A delivery puts the remembered setting into the active context and into
native code, and so makes the three copies agree. -/
theorem onEvent_connectedRemote {m : CallManager} {i : Nat} (inside : i < m.contexts.length) :
    Follows (m.onEvent .connectedRemote true (some i)) i m.isAudioEnabled := by
  have found := List.getElem?_eq_getElem inside
  simp only [onEvent, if_true, setLocalAudioEnabled_found found]
  exact ⟨by simp [inside, CallContext.setAudioEnabled], by simp, rfl⟩

/-- Right after a delivery to an active context the microphone follows the
application's last wish exactly when that wish agrees with the last one made
while a context was active. -/
theorem connectedRemote_follows_iff_heard (actions : List Action) (i : Nat)
    (inside : i < (run actions).contexts.length) :
    Follows (run (actions ++ [.onEvent .connectedRemote true (some i)])) i (lastRequested actions) ↔
      lastHeard actions = lastRequested actions := by
  have delivered : run (actions ++ [.onEvent .connectedRemote true (some i)]) =
      (run actions).onEvent .connectedRemote true (some i) := by simp [run, step]
  have heard : (run actions).isAudioEnabled = lastHeard actions := congrArg Prod.snd (run_remembers actions)
  have follows := onEvent_connectedRemote inside
  rw [delivered, ← heard]
  constructor
  · intro wanted
    exact follows.remembered.symm.trans wanted.remembered
  · intro same
    rwa [same] at follows

theorem connectedRemote_follows_iff_heard_muted :
    Follows (run [.proceed ⟨0, 1, 2⟩ 0 true, .setLocalAudioEnabled false (some 0),
        .onEvent .connectedRemote true (some 0)]) 0 false ↔
      lastHeard [.proceed ⟨0, 1, 2⟩ 0 true, .setLocalAudioEnabled false (some 0)] = false :=
  connectedRemote_follows_iff_heard
    [.proceed ⟨0, 1, 2⟩ 0 true, .setLocalAudioEnabled false (some 0)] 0 (by decide)

/-- Muting before a context exists leaves the microphone on when the call
connects. -/
theorem mute_before_proceed_is_lost :
    lastRequested [.setLocalAudioEnabled false none, .proceed ⟨0, 1, 2⟩ 0 true] = false ∧
      ((run [.setLocalAudioEnabled false none, .proceed ⟨0, 1, 2⟩ 0 true,
        .onEvent .connectedRemote true (some 0)]).contexts[0]?).map (·.audioTrack.isEnabled) = some true ∧
      ¬ Follows (run [.setLocalAudioEnabled false none, .proceed ⟨0, 1, 2⟩ 0 true,
        .onEvent .connectedRemote true (some 0)]) 0
        (lastRequested [.setLocalAudioEnabled false none, .proceed ⟨0, 1, 2⟩ 0 true]) :=
  ⟨rfl, rfl, fun follows => absurd follows.remembered (by decide)⟩

end SignalPods.RingRTC.CallManager
