import Mathlib.Algebra.Ring.Int.Defs
import SignalPods.Machine.Reach
import SignalPods.Machine.History

namespace SignalPods.RingRTC

/-- `AVCaptureDevice.Position`. -/
inductive Position
  | unspecified
  | back
  | front
  deriving DecidableEq, Repr

/-- What `format(device:)` reads of an `AVCaptureDevice.Format`. The frame rate
bounds are doubles in the source, hence rationals. -/
structure CaptureFormat where
  width : Int
  height : Int
  videoSupportedFrameRateRanges : List (Rat × Rat)
  deriving DecidableEq, Repr

structure CaptureDevice where
  uniqueID : String
  position : Position
  supportedFormats : List CaptureFormat
  deriving DecidableEq, Repr

/-- The part of the phone the controller queries: its cameras, and the screen
in portrait-up orientation. -/
structure Phone where
  captureDevices : List CaptureDevice
  screenWidth : Int
  screenHeight : Int

/-- The two commands the controller forwards to its `RTCCameraVideoCapturer`. -/
inductive CapturerCall
  | startCapture (device : CaptureDevice) (format : CaptureFormat) (fps : Int)
  | stopCapture
  deriving DecidableEq, Repr

/-- The device the capturer runs on after these commands. Starting a running
capturer moves it to the new device. -/
def runningDevice (calls : List CapturerCall) : Option CaptureDevice :=
  calls.foldl (fun _ call => match call with
    | .startCapture device _ _ => some device
    | .stopCapture => none) none

@[simp] theorem runningDevice_start (calls : List CapturerCall) (device : CaptureDevice)
    (format : CaptureFormat) (fps : Int) :
    runningDevice (calls ++ [.startCapture device format fps]) = some device := by
  simp [runningDevice]

@[simp] theorem runningDevice_stop (calls : List CapturerCall) :
    runningDevice (calls ++ [.stopCapture]) = none := by
  simp [runningDevice]

structure VideoCaptureController where
  isUsingFrontCamera : Bool := true
  isCapturing : Bool := false
  /-- Commands forwarded to `capturer`, oldest first. -/
  capturer : List CapturerCall := []
  deriving DecidableEq, Repr

namespace VideoCaptureController

def maxCaptureWidth : Int := 1280
def maxCaptureHeight : Int := 720
def maxCaptureFrameRate : Int := 30

/-- The first device at the position, or else the first device of all. -/
def device (phone : Phone) (position : Position) : Option CaptureDevice :=
  match phone.captureDevices.find? (·.position = position) with
  | some device => some device
  | none => phone.captureDevices.head?

def supportsFrameRate (format : CaptureFormat) : Bool :=
  format.videoSupportedFrameRateRanges.any fun range =>
    range.1 ≤ (maxCaptureFrameRate : Rat) && (maxCaptureFrameRate : Rat) ≤ range.2

/-- Distance of a format to the screen, which captures in landscape. -/
def formatDiff (phone : Phone) (format : CaptureFormat) : Int :=
  (max phone.screenHeight maxCaptureWidth - format.width).natAbs +
    (max phone.screenWidth maxCaptureHeight - format.height).natAbs

/-- The loop keeps the selected format and its distance, at first `Int32.max`. -/
def format (phone : Phone) (device : CaptureDevice) : Option CaptureFormat :=
  (device.supportedFormats.foldl (fun (selected, currentDiff) format =>
    if formatDiff phone format < currentDiff ∧ supportsFrameRate format then
      (some format, formatDiff phone format)
    else (selected, currentDiff)) ((none, 2 ^ 31 - 1) : Option CaptureFormat × Int)).1

def position (isUsingFrontCamera : Bool) : Position :=
  if isUsingFrontCamera then .front else .back

/-- A failed lookup is a `failDebug` and leaves the controller alone. -/
def startCaptureSync (phone : Phone) (c : VideoCaptureController) : VideoCaptureController :=
  match device phone (position c.isUsingFrontCamera) with
  | none => c
  | some device =>
    match format phone device with
    | none => c
    | some format =>
      { c with
        capturer := c.capturer ++ [.startCapture device format maxCaptureFrameRate]
        isCapturing := true }

def startCapture (phone : Phone) (c : VideoCaptureController) : VideoCaptureController :=
  if c.isCapturing then c else c.startCaptureSync phone

def stopCapture (c : VideoCaptureController) : VideoCaptureController :=
  if c.isCapturing then { c with capturer := c.capturer ++ [.stopCapture], isCapturing := false } else c

def switchCamera (phone : Phone) (c : VideoCaptureController) (isUsingFrontCamera : Bool) :
    VideoCaptureController :=
  if c.isUsingFrontCamera ≠ isUsingFrontCamera then
    { c with isUsingFrontCamera }.startCaptureSync phone
  else c

/-- The entry points. Each runs alone on `serialQueue`. -/
inductive Call
  | startCapture
  | stopCapture
  | switchCamera (isUsingFrontCamera : Bool)
  deriving DecidableEq, Repr

def step (phone : Phone) (c : VideoCaptureController) : Call → VideoCaptureController
  | .startCapture => c.startCapture phone
  | .stopCapture => c.stopCapture
  | .switchCamera isUsingFrontCamera => c.switchCamera phone isUsingFrontCamera

def run (phone : Phone) (calls : List Call) : VideoCaptureController :=
  calls.foldl (step phone) {}

end VideoCaptureController

end SignalPods.RingRTC
