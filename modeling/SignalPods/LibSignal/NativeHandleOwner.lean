import Mathlib.Data.List.ReduceOption

namespace SignalPods.LibSignal

/-- A `ClonableHandleOwner` or another `NativeHandleOwner`. `app` counts the
strong references the application holds, `shim` those in the variables of the
running store shim. -/
structure Wrapper where
  unsafeNativeHandle : Option Nat
  app : Nat
  shim : Nat
  deriving DecidableEq, Repr

def Wrapper.references (wrapper : Wrapper) : Nat := wrapper.app + wrapper.shim

/-- Handles and wrappers. Wrappers are never reused: one without references is
gone. -/
structure HandleHeap where
  wrappers : List Wrapper := []
  /-- The handles native code owns. -/
  native : List Nat := []
  /-- The handles a destroy function was called on, in order. -/
  destroyed : List Nat := []
  /-- The next handle that native code makes. -/
  fresh : Nat := 0
  deriving DecidableEq, Repr

namespace HandleHeap

variable (heap : HandleHeap)

/-- `init(owned:)`, with the first reference in the hands of the caller. -/
def initOwned (handle app shim : Nat) : HandleHeap :=
  { heap with wrappers := heap.wrappers ++ [{ unsafeNativeHandle := some handle, app, shim }] }

/-- `deinit` runs when the last reference goes, and destroys the handle that is
still there. -/
def put (id : Nat) (wrapper : Wrapper) : HandleHeap :=
  if wrapper.references = 0 then
    { heap with
      wrappers := heap.wrappers.set id { wrapper with unsafeNativeHandle := none }
      destroyed := heap.destroyed ++ wrapper.unsafeNativeHandle.toList }
  else { heap with wrappers := heap.wrappers.set id wrapper }

def appRetains (id : Nat) (wrapper : Wrapper) : HandleHeap := heap.put id { wrapper with app := wrapper.app + 1 }

def appReleases (id : Nat) (wrapper : Wrapper) : HandleHeap := heap.put id { wrapper with app := wrapper.app - 1 }

def shimReleases (id : Nat) (wrapper : Wrapper) : HandleHeap := heap.put id { wrapper with shim := wrapper.shim - 1 }

/-- `takeNativeHandle` -/
def takeNativeHandle (id : Nat) (wrapper : Wrapper) : HandleHeap × Option Nat :=
  ({ heap with wrappers := heap.wrappers.set id { wrapper with unsafeNativeHandle := none } },
    wrapper.unsafeNativeHandle)

/-- `cloneOrTakeHandle(from:)` steals the handle when the variable holds the only
strong reference, and clones it otherwise; `none` when the clone fails. -/
def cloneOrTakeHandle (id : Nat) (wrapper : Wrapper) (cloneFails : Bool) : Option (HandleHeap × Option Nat) :=
  if wrapper.references = 1 then some (heap.takeNativeHandle id wrapper)
  else if cloneFails then none
  else some ({ heap with fresh := heap.fresh + 1 }, some heap.fresh)

end HandleHeap

/-- The shape of a store shim: how many handles native code passes it, how many
it has to hand out, whether the store may answer nil, and whether a struct around
the answer may live on while the handle is converted. -/
structure StoreShim where
  arguments : Nat
  outputs : Nat
  optional : Bool := false
  holdsStruct : Bool := false
  deriving DecidableEq, Repr

def ffiShimGetLocalIdentityKeyPair : StoreShim := { arguments := 0, outputs := 2 }
def ffiShimGetLocalRegistrationId : StoreShim := { arguments := 0, outputs := 0 }
/-- The address and the public key. -/
def ffiShimSaveIdentity : StoreShim := { arguments := 2, outputs := 0 }
/-- `pk` is an `IdentityKey` around the `publicKey` that is converted. -/
def ffiShimGetIdentity : StoreShim := { arguments := 1, outputs := 1, optional := true, holdsStruct := true }
def ffiShimIsTrustedIdentity : StoreShim := { arguments := 2, outputs := 0 }
def ffiShimStorePreKey : StoreShim := { arguments := 1, outputs := 0 }
def ffiShimLoadPreKey : StoreShim := { arguments := 0, outputs := 1 }
def ffiShimRemovePreKey : StoreShim := { arguments := 0, outputs := 0 }
def ffiShimStoreSignedPreKey : StoreShim := { arguments := 1, outputs := 0 }
def ffiShimLoadSignedPreKey : StoreShim := { arguments := 0, outputs := 1 }
def ffiShimStoreKyberPreKey : StoreShim := { arguments := 1, outputs := 0 }
def ffiShimLoadKyberPreKey : StoreShim := { arguments := 0, outputs := 1 }
def ffiShimMarkKyberPreKeyUsed : StoreShim := { arguments := 1, outputs := 0 }
def ffiShimStoreSession : StoreShim := { arguments := 2, outputs := 0 }
def ffiShimLoadSession : StoreShim := { arguments := 1, outputs := 1, optional := true }
def ffiShimStoreSenderKey : StoreShim := { arguments := 2, outputs := 0 }
def ffiShimLoadSenderKey : StoreShim := { arguments := 1, outputs := 1, optional := true }

namespace StoreShim

/-- Where a callback stands. Variables are listed by the wrapper they refer to;
`locals` are those the shim is done with. -/
inductive Stage
  | idle
  /-- The arguments that have no wrapper yet. -/
  | adopting (shim : StoreShim) (arguments locals : List Nat)
  | calling (shim : StoreShim) (locals : List Nat)
  /-- The variables still to convert, and the out struct as far as it is filled. -/
  | filling (shim : StoreShim) (pending locals : List Nat) (out : List (Option Nat))
  | leaving (shim : StoreShim) (locals : List Nat) (out : List (Option Nat)) (status : Int)
  deriving DecidableEq, Repr

structure State where
  heap : HandleHeap := {}
  stage : Stage := .idle
  /-- The status and the out struct native code has seen, callback by callback. -/
  returned : List (Int × List (Option Nat)) := []
  deriving DecidableEq, Repr

inductive Event
  | nativeCreates
  | nativeDestroys (handle : Nat)
  /-- The application makes a wrapper with a handle of its own. -/
  | appCreates
  | appRetains (id : Nat)
  | appReleases (id : Nat)
  | invoke (shim : StoreShim) (arguments : List Nat)
  | adopt
  /-- The store, or the shim before it calls the store, throws. -/
  | storeThrows
  /-- The store answers with these wrappers. -/
  | storeReturns (wrappers : List Nat)
  | convert (cloneFails : Bool)
  /-- A variable that is not used any more ends. -/
  | release (id : Nat)
  | leave
  deriving DecidableEq, Repr

/-- The fields of the out struct that are not filled are null. -/
def outStruct (shim : StoreShim) (out : List (Option Nat)) : List (Option Nat) :=
  out ++ List.replicate (shim.outputs - out.length) none

def Stage.adoptedLocals : Stage → List Nat
  | .calling _ locals => locals
  | _ => []

/-- The application can refer to a wrapper it holds, and to an argument of the
call it is in. -/
def State.appReaches (s : State) (id : Nat) (wrapper : Wrapper) : Bool :=
  wrapper.app ≠ 0 || s.stage.adoptedLocals.contains id

/-- The answer is retained for the shim's variables, once more for a struct
around it. -/
def retainAnswer (shim : StoreShim) (heap : HandleHeap) (id : Nat) : HandleHeap :=
  match heap.wrappers[id]? with
  | some wrapper => heap.put id { wrapper with shim := wrapper.shim + if shim.holdsStruct then 2 else 1 }
  | none => heap

def invoke (s : State) (shim : StoreShim) (arguments : List Nat) : Option State :=
  match s.stage with
  | .idle =>
    if arguments.length = shim.arguments ∧ arguments.Nodup ∧ ∀ handle ∈ arguments, handle ∈ s.heap.native then
      some { s with
        heap := { s.heap with native := s.heap.native.diff arguments }
        stage := .adopting shim arguments [] }
    else none
  | _ => none

/-- `let x = X(owned: NonNull(x)!)`, one argument after the other. -/
def adopt (s : State) : Option State :=
  match s.stage with
  | .adopting shim (handle :: arguments) locals =>
    some { s with
      heap := s.heap.initOwned handle 0 1
      stage := .adopting shim arguments (locals ++ [s.heap.wrappers.length]) }
  | .adopting shim [] locals => some { s with stage := .calling shim locals }
  | _ => none

def storeThrows (s : State) : Option State :=
  match s.stage with
  | .calling shim locals => some { s with stage := .leaving shim locals [] (-1) }
  | _ => none

def storeReturns (s : State) (wrappers : List Nat) : Option State :=
  match s.stage with
  | .calling shim locals =>
    if (wrappers.length = shim.outputs ∨ shim.optional = true ∧ wrappers = []) ∧
        ∀ id ∈ wrappers, ∃ wrapper, s.heap.wrappers[id]? = some wrapper ∧ s.appReaches id wrapper = true then
      some { s with
        heap := wrappers.foldl (retainAnswer shim) s.heap
        stage := .filling shim wrappers (locals ++ if shim.holdsStruct then wrappers else []) [] }
    else none
  | _ => none

/-- One variable is converted. When that fails, the fields already filled are
destroyed, the out struct is zeroed and the error goes to the context. -/
def convert (s : State) (cloneFails : Bool) : Option State :=
  match s.stage with
  | .filling shim [] locals out => some { s with stage := .leaving shim locals out 0 }
  | .filling shim (id :: pending) locals out =>
    match s.heap.wrappers[id]? with
    | none => none
    | some wrapper =>
      match s.heap.cloneOrTakeHandle id wrapper cloneFails with
      | some (heap, handle) => some { s with heap, stage := .filling shim pending (id :: locals) (out ++ [handle]) }
      | none =>
        some { s with
          heap := { s.heap with destroyed := s.heap.destroyed ++ out.reduceOption }
          stage := .leaving shim (id :: pending ++ locals) [] (-1) }
  | _ => none

def releaseLocal (s : State) (id : Nat) : Option State :=
  match s.heap.wrappers[id]? with
  | none => none
  | some wrapper =>
    match s.stage with
    | .filling shim pending locals out =>
      if id ∈ locals then
        some { s with heap := s.heap.shimReleases id wrapper, stage := .filling shim pending (locals.erase id) out }
      else none
    | .leaving shim locals out status =>
      if id ∈ locals then
        some { s with heap := s.heap.shimReleases id wrapper, stage := .leaving shim (locals.erase id) out status }
      else none
    | _ => none

/-- Native code looks at the out struct only when the status is 0. -/
def leave (s : State) : Option State :=
  match s.stage with
  | .leaving shim [] out status =>
    some { s with
      heap := { s.heap with native := s.heap.native ++ if status = 0 then out.reduceOption else [] }
      stage := .idle
      returned := s.returned ++ [(status, outStruct shim out)] }
  | _ => none

/-- The application may act at any time, but only on what it reaches. -/
def appActs (s : State) (id : Nat) (act : HandleHeap → Nat → Wrapper → HandleHeap) (allowed : Wrapper → Bool) :
    Option State :=
  match s.heap.wrappers[id]? with
  | some wrapper => if allowed wrapper then some { s with heap := act s.heap id wrapper } else none
  | none => none

def next (s : State) : Event → Option State
  | .nativeCreates =>
    some { s with heap := { s.heap with native := s.heap.native ++ [s.heap.fresh], fresh := s.heap.fresh + 1 } }
  | .nativeDestroys handle =>
    if handle ∈ s.heap.native then
      some { s with heap := { s.heap with
        native := s.heap.native.erase handle, destroyed := s.heap.destroyed ++ [handle] } }
    else none
  | .appCreates =>
    some { s with heap := { s.heap.initOwned s.heap.fresh 1 0 with fresh := s.heap.fresh + 1 } }
  | .appRetains id => appActs s id HandleHeap.appRetains (s.appReaches id)
  | .appReleases id => appActs s id HandleHeap.appReleases (fun wrapper => wrapper.app ≠ 0)
  | .invoke shim arguments => invoke s shim arguments
  | .adopt => adopt s
  | .storeThrows => storeThrows s
  | .storeReturns wrappers => storeReturns s wrappers
  | .convert cloneFails => convert s cloneFails
  | .release id => releaseLocal s id
  | .leave => leave s

end StoreShim

end SignalPods.LibSignal
