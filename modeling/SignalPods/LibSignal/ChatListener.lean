import SignalPods.Machine.Ledger

namespace SignalPods.LibSignal

open Machine

/-- The arguments that native code hands over to a callback. -/
inductive Owned
  | envelope | ackHandle | alerts | error
  deriving DecidableEq, Repr

/-- Memory handed over by native code, `none` for a buffer without a base. -/
abbrev SignalOwnedBuffer := Option (List UInt8)

structure SignalBytestringArray where
  bytes : List UInt8
  lengths : List Nat
  deriving DecidableEq, Repr

/-- `getters` counts the getters `checkError` calls for an error of this code,
besides those for its type and its message. -/
structure SignalFfiError where
  code : UInt32
  message : String
  getters : Nat
  deriving DecidableEq, Repr

inductive ListenerCallback
  | receivedIncomingMessage (envelope : SignalOwnedBuffer) (timestamp : UInt64)
  | receivedQueueEmpty
  | receivedAlerts (alerts : SignalBytestringArray)
  | receivedServerTimestamp (timestamp : UInt64)
  | connectionInterrupted (maybeError : Option SignalFfiError)
  deriving DecidableEq, Repr

/-- What the application's listener is told. -/
inductive Notification
  | didReceiveIncomingMessage (envelope : List UInt8) (serverDeliveryTimestamp : UInt64)
  | didReceiveQueueEmpty
  | didReceiveAlerts (alerts : List (List UInt8))
  | reportedServerTimestamp (timestamp : UInt64)
  | connectionWasInterrupted (error : Option SignalFfiError)
  deriving DecidableEq, Repr

/-- What a callback does: whether it looks at the bridge behind its context, the
entries it makes for its arguments, whom it tells and what it logs. Every one
returns 0. -/
structure Script where
  takesBridge : Bool := false
  entries : List (Owned × Posting) := []
  notified : List Notification := []
  logged : List String := []
  deriving DecidableEq, Repr

/-- The values whose ownership passes to the callback. -/
def ListenerCallback.owned : ListenerCallback → List Owned
  | .receivedIncomingMessage envelope _ => (if envelope.isSome then [.envelope] else []) ++ [.ackHandle]
  | .receivedAlerts _ => [.alerts]
  | .connectionInterrupted maybeError => if maybeError.isSome then [.error] else []
  | _ => []

/-- `Data(consuming:)` wraps the memory and frees it with the last copy. -/
def consuming (buffer : SignalOwnedBuffer) (entry : Posting) : List (Owned × Posting) :=
  if buffer.isSome then [(.envelope, entry)] else []

def splitByLengths (bytes : List UInt8) : List Nat → List (List UInt8)
  | [] => []
  | length :: lengths => bytes.take length :: splitByLengths (bytes.drop length) lengths

/-- The loop of `invokeFnReturningSomeBytestringArray`: each length takes a view off the
front of the bytes that are left. -/
def SignalBytestringArray.views {Element : Type} (array : SignalBytestringArray) (transform : List UInt8 → Element) :
    List Element :=
  (array.lengths.foldl (fun (bytes, result) length => (bytes.drop length, result ++ [transform (bytes.take length)]))
    (array.bytes, ([] : List Element))).2

/-- The array is read to the end, copied and freed. -/
def convertAlerts (alerts : SignalBytestringArray) : List (List UInt8) × List (Owned × Posting) :=
  (alerts.views id, [(.alerts, .use), (.alerts, .release)])

/-- The type, the message and what else belongs to the code are read before the
deferred `signal_error_free`. -/
def convertError : Option SignalFfiError → Option SignalFfiError × List (Owned × Posting)
  | none => (none, [])
  | some error =>
    (some error, (List.replicate (2 + error.getters) Posting.use ++ [Posting.release]).map (Prod.mk .error))

namespace ChatListenerBridge

/-- When the connection is alive the listener gets the wrappers, and its frame
holds the first reference to each. -/
def receivedIncomingMessage (envelope : SignalOwnedBuffer) (timestamp : UInt64) (connected : Bool) : Script :=
  let wrapped := consuming envelope .retain ++ [(.ackHandle, .retain)]
  if connected then
    { takesBridge := true
      entries := wrapped
      notified := [.didReceiveIncomingMessage (envelope.getD []) timestamp] }
  else
    { takesBridge := true
      entries := wrapped ++ [(.ackHandle, .drop)] ++ consuming envelope .drop }

def receivedQueueEmpty (connected : Bool) : Script :=
  { takesBridge := true
    notified := if connected then [.didReceiveQueueEmpty] else [] }

def receivedAlerts (alerts : SignalBytestringArray) (connected : Bool) : Script :=
  let (swiftAlerts, entries) := convertAlerts alerts
  { takesBridge := true
    entries
    notified := if connected then [.didReceiveAlerts swiftAlerts] else [] }

def receivedServerTimestamp (timestamp : UInt64) (connected : Bool) : Script :=
  { takesBridge := true
    notified := if connected then [.reportedServerTimestamp timestamp] else [] }

def connectionInterrupted (maybeError : Option SignalFfiError) (connected : Bool) : Script :=
  let (error, entries) := convertError maybeError
  { takesBridge := true
    entries
    notified := if connected then [.connectionWasInterrupted error] else [] }

end ChatListenerBridge

namespace UnauthConnectionEventsListenerBridge

def receivedIncomingMessage : Script := { logged := ["unauth socket received an incoming request"] }

def receivedQueueEmpty : Script := { logged := ["unauth socket received a \"queue empty\" notification"] }

def receivedAlerts (alerts : SignalBytestringArray) : Script :=
  { logged := if alerts.lengths.length ≠ 0 then
      ["unauth socket received " ++ toString alerts.lengths.length ++ " alerts"] else [] }

def receivedServerTimestamp : Script := {}

def connectionInterrupted (maybeError : Option SignalFfiError) (connected : Bool) : Script :=
  let (error, entries) := convertError maybeError
  { takesBridge := true
    entries
    notified := if connected then [.connectionWasInterrupted error] else [] }

end UnauthConnectionEventsListenerBridge

/-- Which object `makeListenerStruct` was called on. -/
inductive Bridge
  | chatListener
  | unauthConnectionEventsListener
  deriving DecidableEq, Repr

/-- The callbacks of the struct. `connected` says whether the bridge's weak
reference still finds its connection. -/
def Bridge.script (connected : Bool) : Bridge → ListenerCallback → Script
  | .chatListener, .receivedIncomingMessage envelope timestamp =>
    ChatListenerBridge.receivedIncomingMessage envelope timestamp connected
  | .chatListener, .receivedQueueEmpty => ChatListenerBridge.receivedQueueEmpty connected
  | .chatListener, .receivedAlerts alerts => ChatListenerBridge.receivedAlerts alerts connected
  | .chatListener, .receivedServerTimestamp timestamp => ChatListenerBridge.receivedServerTimestamp timestamp connected
  | .chatListener, .connectionInterrupted maybeError => ChatListenerBridge.connectionInterrupted maybeError connected
  | .unauthConnectionEventsListener, .receivedIncomingMessage _ _ =>
    UnauthConnectionEventsListenerBridge.receivedIncomingMessage
  | .unauthConnectionEventsListener, .receivedQueueEmpty => UnauthConnectionEventsListenerBridge.receivedQueueEmpty
  | .unauthConnectionEventsListener, .receivedAlerts alerts =>
    UnauthConnectionEventsListenerBridge.receivedAlerts alerts
  | .unauthConnectionEventsListener, .receivedServerTimestamp _ =>
    UnauthConnectionEventsListenerBridge.receivedServerTimestamp
  | .unauthConnectionEventsListener, .connectionInterrupted maybeError =>
    UnauthConnectionEventsListenerBridge.connectionInterrupted maybeError connected

/-- A listener struct in use. The arguments are numbered by the call that
brought them. -/
structure Listening where
  /-- The reference to the bridge that `makeListenerStruct` retains as `ctx`. -/
  ctx : Account
  calls : Nat
  arguments : Nat × Owned → Account
  notified : List Notification
  logged : List String

def makeListenerStruct : Listening :=
  { ctx := ({} : Account).give
    calls := 0
    arguments := fun _ => {}
    notified := []
    logged := [] }

namespace Listening

/-- What the listener can do with a wrapper it refers to. -/
inductive Handling
  | copy | use | drop
  deriving DecidableEq, Repr

def Handling.entry : Handling → Posting
  | .copy => .retain
  | .use => .use
  | .drop => .drop

inductive Event
  | call (callback : ListenerCallback) (connected : Bool)
  | listener (argument : Nat × Owned) (handling : Handling)
  | destroy
  deriving DecidableEq, Repr

/-- Native code hands the arguments over and the callback runs. -/
def call (bridge : Bridge) (callback : ListenerCallback) (connected : Bool) (h : Listening) : Listening :=
  let script := bridge.script connected callback
  let entries := callback.owned.map (·, Posting.give) ++ script.entries
  { ctx := if script.takesBridge then h.ctx.use else h.ctx
    calls := h.calls + 1
    arguments := (entries.map fun entry => ((h.calls, entry.1), entry.2)).foldl post h.arguments
    notified := h.notified ++ script.notified
    logged := h.logged ++ script.logged }

/-- `destroy` is called last. The listener may still handle what it kept then. -/
def next (bridge : Bridge) (h : Listening) : Event → Option Listening
  | .call callback connected =>
    if .released ∈ h.ctx.deeds then none else some (h.call bridge callback connected)
  | .listener argument handling =>
    if (h.arguments argument).references = 0 then none
    else some { h with arguments := post h.arguments (argument, handling.entry) }
  | .destroy => if .released ∈ h.ctx.deeds then none else some { h with ctx := h.ctx.release }

def Step (bridge : Bridge) (h : Listening) (event : Event) (h' : Listening) : Prop := h.next bridge event = some h'

end Listening

end SignalPods.LibSignal
