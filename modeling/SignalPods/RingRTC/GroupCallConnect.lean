import SignalPods.RingRTC.GroupCallWorld

namespace SignalPods.RingRTC

open GroupCall

/-- What a group call shares with other calls: the dictionary of clients, and
which video source each capture controller feeds. -/
structure Shared (Ref : Type*) where
  groupCallByClientId : ClientId → Option Ref
  capturerDelegate : Nat → Option Nat

namespace Shared

variable {Ref : Type*}

/-- An effect of the call `g`, which was given this controller. -/
def apply (g : Ref) (videoCaptureController : Nat) (shared : Shared Ref) : Effect → Shared Ref
  | .register clientId present =>
    { shared with groupCallByClientId := World.enter g shared.groupCallByClientId (clientId, present) }
  | .capturerDelegate videoSource =>
    { shared with
      capturerDelegate := Function.update shared.capturerDelegate videoCaptureController (some videoSource) }
  | .native _ => shared
  | .delegate _ => shared

def connect (shared : Shared Ref) (g : Ref) (c : GroupCall) (media : FactoryMedia) (created : ClientId) :
    Outcome × Shared Ref :=
  let outcome := c.connect media created
  (outcome, outcome.effects.foldl (apply g c.settings.videoCaptureController) shared)

/-- `connect` has failed, and neither the call nor what it shares shows it. -/
def LeftAsItWas (shared : Shared Ref) (g : Ref) (c : GroupCall) (media : FactoryMedia) : Prop :=
  (shared.connect g c media invalidClientId).1.returned = false ∧
    (shared.connect g c media invalidClientId).1.call = c ∧ (shared.connect g c media invalidClientId).2 = shared

/-- The factory makes new objects. -/
structure NewMedia (shared : Shared Ref) (c : GroupCall) (media : FactoryMedia) : Prop where
  audioTrack : ∀ track, c.audioTrack = some track → track.object ≠ media.audioTrack
  videoTrack : ∀ track, c.videoTrack = some track → track.object ≠ media.videoTrack
  videoSource : shared.capturerDelegate c.settings.videoCaptureController ≠ some media.videoSource

variable {shared : Shared Ref} {g : Ref} {c : GroupCall} {media : FactoryMedia}

/-- All that a failed `connect` does: it replaces the tracks and redirects the
camera. -/
theorem connect_invalid (client : c.clientId = none) :
    shared.connect g c media invalidClientId =
      (⟨c.makeTracks media,
        [.capturerDelegate media.videoSource, .native (c.createClient media invalidClientId)], false⟩,
        { shared with
          capturerDelegate :=
            Function.update shared.capturerDelegate c.settings.videoCaptureController (some media.videoSource) }) := by
  unfold connect
  rw [connect_failed client]
  rfl

/-- A failed `connect` reports the failure and leaves client, dictionary and
devices alone; but it always puts new tracks in place of the old and takes the
camera away from whatever it fed. -/
theorem failed_connect_replaces_media (client : c.clientId = none) (new : NewMedia shared c media) :
    ¬ shared.LeftAsItWas g c media ∧
      (shared.connect g c media invalidClientId).1.returned = false ∧
      (shared.connect g c media invalidClientId).1.call =
        { c with
          audioTrack := (shared.connect g c media invalidClientId).1.call.audioTrack
          videoTrack := (shared.connect g c media invalidClientId).1.call.videoTrack } ∧
      (shared.connect g c media invalidClientId).2.groupCallByClientId = shared.groupCallByClientId ∧
      (shared.connect g c media invalidClientId).1.call.audioTrack ≠ c.audioTrack ∧
      (shared.connect g c media invalidClientId).1.call.videoTrack ≠ c.videoTrack ∧
      (shared.connect g c media invalidClientId).2.capturerDelegate c.settings.videoCaptureController ≠
        shared.capturerDelegate c.settings.videoCaptureController := by
  have audio : (c.makeTracks media).audioTrack ≠ c.audioTrack := fun same =>
    new.audioTrack _ same.symm rfl
  have video : (c.makeTracks media).videoTrack ≠ c.videoTrack := fun same =>
    new.videoTrack _ same.symm rfl
  have source : Function.update shared.capturerDelegate c.settings.videoCaptureController (some media.videoSource)
      c.settings.videoCaptureController ≠ shared.capturerDelegate c.settings.videoCaptureController := by
    rw [Function.update_self]
    exact new.videoSource.symm
  unfold LeftAsItWas
  rw [connect_invalid client]
  refine ⟨?_, rfl, rfl, rfl, audio, video, source⟩
  rintro ⟨_, same, _⟩
  exact audio (congrArg GroupCall.audioTrack same)

/-- Another call feeds its source from the camera while this one fails. -/
def sharedCamera : Shared Nat :=
  { groupCallByClientId := fun clientId => if clientId = 4 then some 1 else none
    capturerDelegate := fun controller => if controller = 0 then some 9 else none }

def unconnected : GroupCall := { settings := ⟨.groupId [1], "", none, [], none, 0, none, 0⟩ }

theorem failed_connect_replaces_media_sharedCamera :
    ¬ sharedCamera.LeftAsItWas 0 unconnected ⟨1, 2, 3⟩ ∧
      (sharedCamera.connect 0 unconnected ⟨1, 2, 3⟩ invalidClientId).2.capturerDelegate 0 ≠
        sharedCamera.capturerDelegate 0 := by
  have new : NewMedia sharedCamera unconnected ⟨1, 2, 3⟩ := by
    refine ⟨?_, ?_, by decide⟩
    · intro track none
      cases none
    · intro track none
      cases none
  obtain ⟨changed, _, _, _, _, _, source⟩ := failed_connect_replaces_media (g := 0) rfl new
  exact ⟨changed, source⟩

/-- The camera that fed the other call feeds the source of the failed one. -/
theorem failed_connect_takes_camera : ¬ sharedCamera.LeftAsItWas 0 unconnected ⟨1, 2, 3⟩ := by
  rintro ⟨_, _, same⟩
  have source := congrFun (congrArg Shared.capturerDelegate same) 0
  exact absurd source (by decide)

end Shared

end SignalPods.RingRTC
