import SignalPods.Machine.Scopes

namespace SignalPods.LibSignal

open Machine

universe u v w x y z

/-- A value that can be borrowed. Each conformance makes the borrowed form or throws,
calls back with it once and takes it back. -/
abbrev BorrowForFfi (World : Type u) (Failure : Type v) (Borrowed : Type w) := Scope World Failure Borrowed

variable {World : Type u} {Failure : Type v} {Kind : Type w} {Borrowed : Kind → Type w} {Locals : Type x}
  {Result : Type y} {kind : Kind} {kinds : List Kind}

abbrev BorrowForFfi.withBorrowed {Form : Type w} (input : BorrowForFfi World Failure Form)
    (callback : Form → Throwing (World × Locals) Failure Result) : Throwing (World × Locals) Failure Result :=
  Scope.enter input callback

/-- The arguments of the variadic function. -/
abbrev Inputs (World : Type u) (Failure : Type v) (Borrowed : Kind → Type w) :=
  Pack fun kind => BorrowForFfi World Failure (Borrowed kind)

/-- What the variadic function keeps on the stack: the places that pointers were taken
to, the array of these pointers, uninitialised at first, and `nextIndex`. -/
structure Frame {Kind : Type w} (Borrowed : Kind → Type w) where
  places : List ((kind : Kind) × Borrowed kind) := []
  borrows : List (Option Nat)
  nextIndex : Int

/-- A closure of the variadic function. -/
abbrev Operation (World : Type u) (Failure : Type v) (Borrowed : Kind → Type w) (Locals : Type x) (Result : Type y) :=
  Throwing (World × (Locals × Frame Borrowed)) Failure Result

/-- The place lives while the body runs. -/
def withUnsafePointer (value : (kind : Kind) × Borrowed kind)
    (body : Nat → Operation World Failure Borrowed Locals Result) : Operation World Failure Borrowed Locals Result :=
  fun (world, (locals, frame)) =>
    (body frame.places.length (world, (locals, { frame with places := frame.places ++ [value] }))).map
      fun (result, (world, (locals, after))) =>
        (result, (world, (locals, { after with places := after.places.dropLast })))

/-- `borrows[nextIndex] = pointer` and `nextIndex -= 1`, then the operation. A write
outside of the array is undefined. -/
def storing (pointer : Nat) (operation : Operation World Failure Borrowed Locals Result) :
    Operation World Failure Borrowed Locals Result := fun (world, (locals, frame)) =>
  if 0 ≤ frame.nextIndex ∧ frame.nextIndex < frame.borrows.length then
    operation (world, (locals, { frame with
      borrows := frame.borrows.set frame.nextIndex.toNat (some pointer)
      nextIndex := frame.nextIndex - 1 }))
  else none

/-- A pointer is read as a value of a kind. That is undefined when its place is gone
or holds something else. -/
def load [DecidableEq Kind] (places : List ((kind : Kind) × Borrowed kind)) (kind : Kind) (pointer : Nat) :
    Option (Borrowed kind) :=
  match places[pointer]? with
  | none => none
  | some ⟨stored, value⟩ => if same : stored = kind then some (same ▸ value) else none

def loadAll [DecidableEq Kind] (places : List ((kind : Kind) × Borrowed kind)) :
    (kinds : List Kind) → List (Option Nat) → Option (Pack Borrowed kinds)
  | [], _ => some .nil
  | _ :: _, [] => none
  | kind :: kinds, pointer :: borrows =>
    (pointer.bind (load places kind)).bind fun first => (loadAll places kinds borrows).map (Pack.cons first)

section Variadic

variable [DecidableEq Kind]

/-- The first closure reads all pointers and calls back. -/
def innermost (callback : Pack Borrowed kinds → Throwing (World × Locals) Failure Result) :
    Operation World Failure Borrowed Locals Result := fun (world, (locals, frame)) =>
  (loadAll frame.places kinds frame.borrows).bind fun borrows =>
    (callback borrows (world, locals)).map fun (result, (world, locals)) => (result, (world, (locals, frame)))

/-- One turn of the loop over the pack. -/
def wrapping (next : BorrowForFfi World Failure (Borrowed kind))
    (operation : Operation World Failure Borrowed Locals Result) :
    Operation World Failure Borrowed Locals Result :=
  next.withBorrowed fun borrowed => withUnsafePointer ⟨kind, borrowed⟩ fun pointer => storing pointer operation

def stacked : {kinds : List Kind} → Inputs World Failure Borrowed kinds → Operation World Failure Borrowed Locals Result →
    Operation World Failure Borrowed Locals Result
  | _, .nil, operation => operation
  | _, .cons next rest, operation => stacked rest (wrapping next operation)

/-- What is left of a result when the frame is gone. -/
def leaveFrame (outcome : Option (Except Failure Result × (World × (Locals × Frame Borrowed)))) :
    Option (Except Failure Result × (World × Locals)) :=
  outcome.map fun (result, (world, (locals, _))) => (result, (world, locals))

/-- The variadic `withAllBorrowed`. -/
def withAllBorrowed (input : Inputs World Failure Borrowed kinds)
    (callback : Pack Borrowed kinds → Throwing (World × Locals) Failure Result) :
    Throwing (World × Locals) Failure Result := fun (world, locals) =>
  let count := kinds.length
  let operation := stacked input (innermost callback)
  leaveFrame (operation (world, (locals, { borrows := List.replicate count none, nextIndex := (count : Int) - 1 })))

end Variadic

/-! The overloads for few arguments. -/

def withAllBorrowed₁ {Borrowed₁ : Type w} (input₁ : BorrowForFfi World Failure Borrowed₁)
    (callback : Borrowed₁ → Throwing (World × Locals) Failure Result) : Throwing (World × Locals) Failure Result :=
  input₁.withBorrowed callback

def withAllBorrowed₂ {Borrowed₁ Borrowed₂ : Type w} (input₁ : BorrowForFfi World Failure Borrowed₁)
    (input₂ : BorrowForFfi World Failure Borrowed₂)
    (callback : Borrowed₁ → Borrowed₂ → Throwing (World × Locals) Failure Result) :
    Throwing (World × Locals) Failure Result :=
  input₂.withBorrowed fun borrowed₂ => input₁.withBorrowed fun borrowed₁ => callback borrowed₁ borrowed₂

def withAllBorrowed₃ {Borrowed₁ Borrowed₂ Borrowed₃ : Type w} (input₁ : BorrowForFfi World Failure Borrowed₁)
    (input₂ : BorrowForFfi World Failure Borrowed₂) (input₃ : BorrowForFfi World Failure Borrowed₃)
    (callback : Borrowed₁ → Borrowed₂ → Borrowed₃ → Throwing (World × Locals) Failure Result) :
    Throwing (World × Locals) Failure Result :=
  input₃.withBorrowed fun borrowed₃ => input₂.withBorrowed fun borrowed₂ => input₁.withBorrowed fun borrowed₁ =>
    callback borrowed₁ borrowed₂ borrowed₃

/-- Each argument borrowed within the borrowing of the next. -/
def nestedBorrows : {kinds : List Kind} → Inputs World Failure Borrowed kinds →
    (Pack Borrowed kinds → Throwing (World × Locals) Failure Result) → Throwing (World × Locals) Failure Result
  | _, .nil, callback => callback .nil
  | _, .cons input rest, callback =>
    nestedBorrows rest fun values => input.withBorrowed fun value => callback (.cons value values)

section Reading

variable [DecidableEq Kind]

theorem load_newest (places : List ((kind : Kind) × Borrowed kind)) (value : Borrowed kind) :
    load (places ++ [⟨kind, value⟩]) kind places.length = some value := by
  simp [load]

/-- A newer place does not disturb what the pointers to older ones read. -/
theorem load_append {places : List ((kind : Kind) × Borrowed kind)} {pointer : Nat} {value : Borrowed kind}
    (reads : load places kind pointer = some value) (newer : List ((kind : Kind) × Borrowed kind)) :
    load (places ++ newer) kind pointer = some value := by
  by_cases old : pointer < places.length
  · rwa [load, List.getElem?_append_left old]
  · have gone : places[pointer]? = none := List.getElem?_eq_none (by omega)
    simp [load, gone] at reads

theorem loadAll_append {places : List ((kind : Kind) × Borrowed kind)} {borrows : List (Option Nat)}
    {values : Pack Borrowed kinds} (reads : loadAll places kinds borrows = some values)
    (newer : List ((kind : Kind) × Borrowed kind)) : loadAll (places ++ newer) kinds borrows = some values := by
  induction values generalizing borrows with
  | nil => rfl
  | cons value values ih =>
    cases borrows with
    | nil => simp [loadAll] at reads
    | cons pointer borrows =>
      obtain ⟨first, atPointer, others⟩ := Option.bind_eq_some_iff.mp reads
      obtain ⟨place, named, loaded⟩ := Option.bind_eq_some_iff.mp atPointer
      obtain ⟨later, loads, joined⟩ := Option.map_eq_some_iff.mp others
      cases joined
      rw [loadAll, named, Option.bind_some, load_append loaded newer, Option.bind_some, ih loads, Option.map_some]

/-- `waiting` arguments are not borrowed yet, and the pointers behind their cells
read the values of the others. -/
structure Holds (frame : Frame Borrowed) (waiting : Nat) (values : Pack Borrowed kinds) : Prop where
  room : waiting ≤ frame.borrows.length
  index : frame.nextIndex = waiting - 1
  reads : loadAll frame.places kinds (frame.borrows.drop waiting) = some values

/-- Run when `waiting` arguments are left to borrow, the operation does what the
body does with the values of the others. -/
def Performs (operation : Operation World Failure Borrowed Locals Result) (waiting : Nat)
    (body : Pack Borrowed kinds → Throwing (World × Locals) Failure Result) : Prop :=
  ∀ world locals frame values, Holds frame waiting values →
    leaveFrame (operation (world, (locals, frame))) = body values (world, locals)

theorem innermost_performs (callback : Pack Borrowed kinds → Throwing (World × Locals) Failure Result) :
    Performs (innermost callback) 0 callback := by
  intro world locals frame values holds
  have reads := holds.reads
  rw [List.drop_zero] at reads
  rw [leaveFrame, innermost, reads, Option.bind_some, Option.map_map]
  exact Option.map_id'

/-- The next argument is stored where the loop has come to. -/
theorem Holds.store {frame : Frame Borrowed} {waiting : Nat} {values : Pack Borrowed kinds}
    (holds : Holds frame (waiting + 1) values) (value : Borrowed kind) :
    Holds { places := frame.places ++ [⟨kind, value⟩]
            borrows := frame.borrows.set waiting (some frame.places.length)
            nextIndex := frame.nextIndex - 1 } waiting (.cons value values) := by
  have room := holds.room
  have index := holds.index
  constructor
  · rw [List.length_set]
    omega
  · show frame.nextIndex - 1 = waiting - 1
    omega
  · have here : waiting < (frame.borrows.set waiting (some frame.places.length)).length := by
      rw [List.length_set]
      omega
    show loadAll _ (kind :: kinds) ((frame.borrows.set waiting (some frame.places.length)).drop waiting) = _
    rw [List.drop_eq_getElem_cons here, List.getElem_set_self, List.drop_set_of_lt (Nat.lt_succ_self waiting), loadAll,
      Option.bind_some, load_newest, Option.bind_some, loadAll_append holds.reads, Option.map_some]

theorem wrapping_performs {operation : Operation World Failure Borrowed Locals Result} {waiting : Nat}
    {body : Pack Borrowed (kind :: kinds) → Throwing (World × Locals) Failure Result}
    (performs : Performs operation waiting body) (next : BorrowForFfi World Failure (Borrowed kind)) :
    Performs (wrapping next operation) (waiting + 1)
      fun values => next.withBorrowed fun value => body (.cons value values) := by
  intro world locals frame values holds
  show leaveFrame (Scope.enter next _ (world, (locals, frame))) = Scope.enter next _ (world, locals)
  rcases found : next.acquire world with ⟨error | value, after⟩
  · rw [Scope.enter_of_error found, Scope.enter_of_error found]
    rfl
  · have room := holds.room
    have index := holds.index
    have inside : 0 ≤ frame.nextIndex ∧ frame.nextIndex < frame.borrows.length := by omega
    have cell : frame.nextIndex.toNat = waiting := by omega
    have same := performs after locals _ _ (holds.store value)
    rw [Scope.enter_of_ok found, Scope.enter_of_ok found, withUnsafePointer, storing, if_pos inside, cell, ← same]
    simp only [leaveFrame, Option.map_map]
    rfl

/-- The loop performs the nested borrows of the arguments it goes over. -/
theorem stacked_performs (input : Inputs World Failure Borrowed kinds)
    {operation : Operation World Failure Borrowed Locals Result} {waiting : Nat}
    {callback : Pack Borrowed kinds → Throwing (World × Locals) Failure Result}
    (performs : Performs operation waiting callback) :
    Performs (stacked input operation) (waiting + kinds.length)
      fun _ : Pack Borrowed [] => nestedBorrows input callback := by
  induction input generalizing operation waiting with
  | nil =>
    intro world locals frame values holds
    cases values
    exact performs world locals frame .nil holds
  | cons next rest ih =>
    have further := ih (wrapping_performs performs next)
    rw [Nat.add_right_comm] at further
    exact further

/-- The array and its pointers do not show: the variadic function borrows each argument
within the borrowing of the next. -/
theorem withAllBorrowed_eq_nestedBorrows (input : Inputs World Failure Borrowed kinds)
    (callback : Pack Borrowed kinds → Throwing (World × Locals) Failure Result) :
    withAllBorrowed input callback = nestedBorrows input callback := by
  funext (world, locals)
  have performs := stacked_performs input (innermost_performs callback)
  rw [Nat.zero_add] at performs
  refine performs world locals _ .nil ?_
  constructor
  · exact Nat.le_of_eq List.length_replicate.symm
  · rfl
  · rfl

end Reading

theorem nestedBorrows_eq_enter (input : Inputs World Failure Borrowed kinds)
    (callback : Pack Borrowed kinds → Throwing (World × Locals) Failure Result) :
    nestedBorrows input callback = (Scope.all input).enter callback := by
  induction input with
  | nil => exact (Scope.enter_always _ callback).symm
  | cons input rest ih => rw [nestedBorrows, ih, Scope.enter_all_cons]

/-- Every borrow succeeds: the callback runs once, with the values in argument order,
after all borrows and before all returns, and what it returns or throws comes out. -/
def BorrowsAll [DecidableEq Kind] (input : Inputs World Failure Borrowed kinds)
    (callback : Pack Borrowed kinds → Throwing (World × Locals) Failure Result) (world : World) (locals : Locals) : Prop :=
  ∃ values after, (Scope.all input).acquire world = (.ok values, after) ∧
    (withAllBorrowed input callback (world, locals) = (callback values (after, locals)).map
      fun (result, (world, locals)) => (result, ((Scope.all input).release values world, locals))) ∧
    withAllBorrowed (Scope.recordedFrom 0 input) (Scope.recordedBody callback) ((world, []), locals) =
      (callback values (after, locals)).map fun (result, (world, locals)) =>
        (result, (((Scope.all input).release values world,
          acquisitions 0 values.toList ++ [.entered values.toList, .left] ++ releases 0 values.toList), locals))

/-- A borrow fails: its error comes out, and what was borrowed before it is given back. -/
def BorrowRefused [DecidableEq Kind] (input : Inputs World Failure Borrowed kinds)
    (callback : Pack Borrowed kinds → Throwing (World × Locals) Failure Result) (world : World) (locals : Locals) : Prop :=
  ∃ error after refused later, (Scope.all input).acquire world = (.error error, after) ∧
    withAllBorrowed input callback (world, locals) = some (.error error, (after, locals)) ∧
    withAllBorrowed (Scope.recordedFrom 0 input) (Scope.recordedBody callback) ((world, []), locals) =
      some (.error error, ((after, acquisitions (refused + 1) later ++ [.refused refused error] ++
        releases (refused + 1) later), locals)) ∧
    refused + 1 + later.length = kinds.length

theorem borrowsAll_or_refused [DecidableEq Kind] (input : Inputs World Failure Borrowed kinds)
    (callback : Pack Borrowed kinds → Throwing (World × Locals) Failure Result) (world : World) (locals : Locals) :
    BorrowsAll input callback world locals ∨ BorrowRefused input callback world locals := by
  unfold BorrowsAll BorrowRefused
  rw [withAllBorrowed_eq_nestedBorrows, withAllBorrowed_eq_nestedBorrows, nestedBorrows_eq_enter, nestedBorrows_eq_enter]
  rcases Scope.enter_recordedFrom input callback world locals with
    ⟨values, after, acquired, traced⟩ | ⟨error, after, refused, later, failed, traced, position⟩
  · exact Or.inl ⟨values, after, acquired, Scope.enter_of_ok acquired _ _, traced⟩
  · exact Or.inr ⟨error, after, refused, later, failed, Scope.enter_of_error failed _ _, traced, position⟩

/-- The variadic function is the nested borrows, in every run of which all borrows
succeed or one fails, and so are the overloads. -/
theorem withAllBorrowed_nests [DecidableEq Kind] :
    (∀ (input : Inputs World Failure Borrowed kinds)
      (callback : Pack Borrowed kinds → Throwing (World × Locals) Failure Result),
      withAllBorrowed input callback = nestedBorrows input callback ∧ ∀ world locals,
        BorrowsAll input callback world locals ∨ BorrowRefused input callback world locals) ∧
    (∀ (kind₁ : Kind) (input₁ : BorrowForFfi World Failure (Borrowed kind₁))
      (callback : Pack Borrowed [kind₁] → Throwing (World × Locals) Failure Result),
      withAllBorrowed₁ input₁ (fun borrowed₁ => callback (.cons borrowed₁ .nil)) =
        withAllBorrowed (.cons input₁ .nil) callback) ∧
    (∀ (kind₁ kind₂ : Kind) (input₁ : BorrowForFfi World Failure (Borrowed kind₁))
      (input₂ : BorrowForFfi World Failure (Borrowed kind₂))
      (callback : Pack Borrowed [kind₁, kind₂] → Throwing (World × Locals) Failure Result),
      withAllBorrowed₂ input₁ input₂ (fun borrowed₁ borrowed₂ => callback (.cons borrowed₁ (.cons borrowed₂ .nil))) =
        withAllBorrowed (.cons input₁ (.cons input₂ .nil)) callback) ∧
    ∀ (kind₁ kind₂ kind₃ : Kind) (input₁ : BorrowForFfi World Failure (Borrowed kind₁))
      (input₂ : BorrowForFfi World Failure (Borrowed kind₂)) (input₃ : BorrowForFfi World Failure (Borrowed kind₃))
      (callback : Pack Borrowed [kind₁, kind₂, kind₃] → Throwing (World × Locals) Failure Result),
      withAllBorrowed₃ input₁ input₂ input₃
        (fun borrowed₁ borrowed₂ borrowed₃ => callback (.cons borrowed₁ (.cons borrowed₂ (.cons borrowed₃ .nil)))) =
        withAllBorrowed (.cons input₁ (.cons input₂ (.cons input₃ .nil))) callback := by
  refine ⟨fun input callback => ⟨withAllBorrowed_eq_nestedBorrows input callback,
    borrowsAll_or_refused input callback⟩, ?_, ?_, ?_⟩
  · intro kind₁ input₁ callback
    exact (withAllBorrowed_eq_nestedBorrows (.cons input₁ .nil) callback).symm
  · intro kind₁ kind₂ input₁ input₂ callback
    exact (withAllBorrowed_eq_nestedBorrows (.cons input₁ (.cons input₂ .nil)) callback).symm
  · intro kind₁ kind₂ kind₃ input₁ input₂ input₃ callback
    exact (withAllBorrowed_eq_nestedBorrows (.cons input₁ (.cons input₂ (.cons input₃ .nil))) callback).symm

end SignalPods.LibSignal
