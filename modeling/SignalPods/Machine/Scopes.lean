import Mathlib.Data.List.Basic

namespace SignalPods.Machine

universe u v w x y z

/-- A computation that may get stuck, throw or return, and change its state. -/
abbrev Throwing (State : Type u) (Failure : Type v) (Result : Type w) :=
  State → Option (Except Failure Result × State)

/-- Something that is acquired, unless that fails, and given back. -/
structure Scope (World : Type u) (Failure : Type v) (Value : Type w) where
  acquire : World → Except Failure Value × World
  release : Value → World → World

namespace Scope

variable {World : Type u} {Failure : Type v} {Value Other : Type w} {Locals : Type x} {Result : Type y}

/-- The body runs between the acquisition and the release, however it ends. Besides
the world it has a state of its own. -/
def enter (scope : Scope World Failure Value) (body : Value → Throwing (World × Locals) Failure Result) :
    Throwing (World × Locals) Failure Result := fun (world, locals) =>
  match scope.acquire world with
  | (.error error, world) => some (.error error, (world, locals))
  | (.ok value, world) =>
    (body value (world, locals)).map fun (result, (world, locals)) => (result, (scope.release value world, locals))

theorem enter_of_error {scope : Scope World Failure Value} {world after : World} {error : Failure}
    (refused : scope.acquire world = (.error error, after)) (locals : Locals)
    (body : Value → Throwing (World × Locals) Failure Result) :
    scope.enter body (world, locals) = some (.error error, (after, locals)) := by
  simp [enter, refused]

theorem enter_of_ok {scope : Scope World Failure Value} {world after : World} {value : Value}
    (acquired : scope.acquire world = (.ok value, after)) (locals : Locals)
    (body : Value → Throwing (World × Locals) Failure Result) :
    scope.enter body (world, locals) = (body value (after, locals)).map
      fun (result, (world, locals)) => (result, (scope.release value world, locals)) := by
  simp [enter, acquired]

/-- A value that is there anyway. -/
def always (value : Value) : Scope World Failure Value where
  acquire world := (.ok value, world)
  release _ world := world

@[simp] theorem enter_always (value : Value) (body : Value → Throwing (World × Locals) Failure Result) :
    (always value : Scope World Failure Value).enter body = body value := by
  funext (world, locals)
  rw [enter_of_ok rfl]
  exact Option.map_id'

/-- The inner scope opens and closes within the outer one. -/
def nest (outer : Scope World Failure Value) (inner : Scope World Failure Other) :
    Scope World Failure (Other × Value) where
  acquire world :=
    match outer.acquire world with
    | (.error error, world) => (.error error, world)
    | (.ok value, world) =>
      match inner.acquire world with
      | (.error error, world) => (.error error, outer.release value world)
      | (.ok other, world) => (.ok (other, value), world)
  release values world := outer.release values.2 (inner.release values.1 world)

/-- Entering one scope within another is entering both at once. -/
theorem enter_nest (outer : Scope World Failure Value) (inner : Scope World Failure Other)
    (body : Other × Value → Throwing (World × Locals) Failure Result) :
    (outer.nest inner).enter body = outer.enter fun value => inner.enter fun other => body (other, value) := by
  funext (start, locals)
  rcases first : outer.acquire start with ⟨error | value, world⟩
  · have refused : (outer.nest inner).acquire start = (.error error, world) := by simp only [nest, first]
    rw [enter_of_error refused, enter_of_error first]
  · rcases second : inner.acquire world with ⟨error | other, after⟩
    · have refused : (outer.nest inner).acquire start = (.error error, outer.release value after) := by
        simp only [nest, first, second]
      rw [enter_of_error refused, enter_of_ok first, enter_of_error second]
      rfl
    · have acquired : (outer.nest inner).acquire start = (.ok (other, value), after) := by
        simp only [nest, first, second]
      rw [enter_of_ok acquired, enter_of_ok first, enter_of_ok second, Option.map_map]
      rfl

/-- The same resource in another form. -/
def convert (scope : Scope World Failure Value) (form : Value → Other) (back : Other → Value) :
    Scope World Failure Other where
  acquire world := ((scope.acquire world).1.map form, (scope.acquire world).2)
  release other world := scope.release (back other) world

theorem enter_convert {form : Value → Other} {back : Other → Value} (undo : ∀ value, back (form value) = value)
    (scope : Scope World Failure Value) (body : Other → Throwing (World × Locals) Failure Result) :
    (scope.convert form back).enter body = scope.enter fun value => body (form value) := by
  funext (start, locals)
  rcases found : scope.acquire start with ⟨error | value, world⟩
  · have refused : (scope.convert form back).acquire start = (.error error, world) := by simp [convert, found, Except.map]
    rw [enter_of_error refused, enter_of_error found]
  · have acquired : (scope.convert form back).acquire start = (.ok (form value), world) := by
      simp [convert, found, Except.map]
    rw [enter_of_ok acquired, enter_of_ok found]
    simp only [convert, undo]

end Scope

/-- Values of different kinds, one for each kind of a list. -/
inductive Pack {Kind : Type u} (family : Kind → Type v) : List Kind → Type (max u v)
  | nil : Pack family []
  | cons {kind : Kind} {kinds : List Kind} (first : family kind) (rest : Pack family kinds) :
    Pack family (kind :: kinds)

namespace Pack

variable {Kind : Type u} {family other : Kind → Type v}

def first {kind : Kind} {kinds : List Kind} : Pack family (kind :: kinds) → family kind
  | cons first _ => first

def rest {kind : Kind} {kinds : List Kind} : Pack family (kind :: kinds) → Pack family kinds
  | cons _ rest => rest

def toList : {kinds : List Kind} → Pack family kinds → List ((kind : Kind) × family kind)
  | _, nil => []
  | kind :: _, cons first rest => ⟨kind, first⟩ :: rest.toList

@[simp] theorem length_toList {kinds : List Kind} (pack : Pack family kinds) :
    pack.toList.length = kinds.length := by
  induction pack with
  | nil => rfl
  | cons first rest ih => simp [toList, ih]

end Pack

/-- What a record of the scopes shows. A scope is known by its position. -/
inductive Entry (Held : Type u) (Failure : Type v)
  | acquired (position : Nat) (held : Held)
  | refused (position : Nat) (error : Failure)
  | entered (all : List Held)
  | left
  | released (position : Nat) (held : Held)

/-- The scopes at a position and after it, the last acquired first. -/
def acquisitions {Held : Type u} {Failure : Type v} (position : Nat) : List Held → List (Entry Held Failure)
  | [] => []
  | held :: rest => acquisitions (position + 1) rest ++ [.acquired position held]

/-- What ends what an entry says. -/
def Entry.ending {Held : Type u} {Failure : Type v} : Entry Held Failure → Entry Held Failure
  | .acquired position held => .released position held
  | .entered _ => .left
  | entry => entry

/-- Their release, in the reverse order. -/
def releases {Held : Type u} {Failure : Type v} (position : Nat) (helds : List Held) : List (Entry Held Failure) :=
  (acquisitions position helds).reverse.map Entry.ending

@[simp] theorem releases_nil {Held : Type u} {Failure : Type v} (position : Nat) :
    (releases position [] : List (Entry Held Failure)) = [] := rfl

@[simp] theorem releases_cons {Held : Type u} {Failure : Type v} (position : Nat) (held : Held) (rest : List Held) :
    (releases position (held :: rest) : List (Entry Held Failure)) =
      .released position held :: releases (position + 1) rest := by
  simp [releases, acquisitions, Entry.ending]

namespace Scope

variable {World : Type u} {Failure : Type v} {Kind : Type w} {Value : Kind → Type w} {Locals : Type x}
  {Result : Type y} {kinds : List Kind}

/-- All scopes of a pack as one, the last the outermost. -/
def all : {kinds : List Kind} → Pack (fun kind => Scope World Failure (Value kind)) kinds →
    Scope World Failure (Pack Value kinds)
  | _, .nil => always .nil
  | _, .cons scope rest =>
    ((all rest).nest scope).convert (fun values => .cons values.1 values.2) fun values => (values.first, values.rest)

theorem all_cons {kind : Kind} (scope : Scope World Failure (Value kind))
    (rest : Pack (fun kind => Scope World Failure (Value kind)) kinds) :
    all (.cons scope rest) = ((all rest).nest scope).convert (fun values => .cons values.1 values.2)
      fun values => (values.first, values.rest) := rfl

theorem enter_all_cons {kind : Kind} (scope : Scope World Failure (Value kind))
    (rest : Pack (fun kind => Scope World Failure (Value kind)) kinds)
    (body : Pack Value (kind :: kinds) → Throwing (World × Locals) Failure Result) :
    (all (.cons scope rest)).enter body =
      (all rest).enter fun values => scope.enter fun value => body (.cons value values) := by
  rw [all_cons, enter_convert (fun _ => rfl), enter_nest]

/-- The scope with a record of what becomes of it. -/
def recorded {kind : Kind} (position : Nat) (scope : Scope World Failure (Value kind)) :
    Scope (World × List (Entry ((kind : Kind) × Value kind) Failure)) Failure (Value kind) where
  acquire state :=
    match scope.acquire state.1 with
    | (.error error, world) => (.error error, (world, state.2 ++ [.refused position error]))
    | (.ok value, world) => (.ok value, (world, state.2 ++ [.acquired position ⟨kind, value⟩]))
  release value state := (scope.release value state.1, state.2 ++ [.released position ⟨kind, value⟩])

/-- A pack with such records, numbered from a position on. -/
def recordedFrom : {kinds : List Kind} → Nat → Pack (fun kind => Scope World Failure (Value kind)) kinds →
    Pack (fun kind => Scope (World × List (Entry ((kind : Kind) × Value kind) Failure)) Failure (Value kind)) kinds
  | _, _, .nil => .nil
  | _, position, .cons scope rest => .cons (recorded position scope) (recordedFrom (position + 1) rest)

/-- A body with a record of its call. -/
def recordedBody (body : Pack Value kinds → Throwing (World × Locals) Failure Result) (values : Pack Value kinds) :
    Throwing ((World × List (Entry ((kind : Kind) × Value kind) Failure)) × Locals) Failure Result :=
  fun ((world, entries), locals) =>
    (body values (world, locals)).map fun (result, (world, locals)) =>
      (result, ((world, entries ++ [.entered values.toList, .left]), locals))

theorem release_recordedFrom (scopes : Pack (fun kind => Scope World Failure (Value kind)) kinds) (position : Nat)
    (values : Pack Value kinds) (world : World) (entries : List (Entry ((kind : Kind) × Value kind) Failure)) :
    (all (recordedFrom position scopes)).release values (world, entries) =
      ((all scopes).release values world, entries ++ releases position values.toList) := by
  induction scopes generalizing position world entries with
  | nil =>
    cases values
    simp [all, recordedFrom, always, Pack.toList]
  | cons scope rest ih =>
    cases values with
    | cons value values =>
      have later := ih (position + 1) values (scope.release value world) (entries ++ [.released position ⟨_, value⟩])
      rw [List.append_assoc] at later
      rw [Pack.toList, releases_cons]
      exact later

/-- Every scope of a pack is acquired, or one refuses after the scopes behind it
have been acquired, and those are released again. -/
theorem acquire_recordedFrom (scopes : Pack (fun kind => Scope World Failure (Value kind)) kinds) (position : Nat)
    (world : World) (entries : List (Entry ((kind : Kind) × Value kind) Failure)) :
    (∃ values after, (all scopes).acquire world = (.ok values, after) ∧
      (all (recordedFrom position scopes)).acquire (world, entries) =
        (.ok values, (after, entries ++ acquisitions position values.toList))) ∨
    ∃ error after refused later, (all scopes).acquire world = (.error error, after) ∧
      (all (recordedFrom position scopes)).acquire (world, entries) =
        (.error error, (after, entries ++ acquisitions (refused + 1) later ++ [.refused refused error] ++
          releases (refused + 1) later)) ∧
      position ≤ refused ∧ refused + 1 + later.length = position + kinds.length := by
  induction scopes generalizing position world entries with
  | nil =>
    left
    refine ⟨.nil, world, rfl, ?_⟩
    simp [all, recordedFrom, always, Pack.toList, acquisitions]
  | cons scope rest ih =>
    rcases ih (position + 1) world entries with ⟨values, middle, plain, traced⟩ |
      ⟨error, after, refused, later, plain, traced, lower, upper⟩
    · rcases found : scope.acquire middle with ⟨error | value, after⟩
      · right
        refine ⟨error, (all rest).release values after, position, values.toList, ?_, ?_, Nat.le_refl _, ?_⟩
        · simp [all_cons, convert, nest, plain, found, Except.map]
        · simp only [recordedFrom, all_cons, convert, nest, traced, recorded, found, release_recordedFrom]
          rfl
        · rw [Pack.length_toList, List.length_cons]
          omega
      · left
        refine ⟨.cons value values, after, ?_, ?_⟩
        · simp [all_cons, convert, nest, plain, found, Except.map]
        · simp only [recordedFrom, all_cons, convert, nest, traced, recorded, found, Pack.toList, acquisitions,
            List.append_assoc]
          rfl
    · right
      refine ⟨error, after, refused, later, ?_, ?_, by omega, ?_⟩
      · simp [all_cons, convert, nest, plain, Except.map]
      · simp only [recordedFrom, all_cons, convert, nest, traced]
        rfl
      · rw [List.length_cons]
        omega

/-- What a record of entering a pack shows. Either every scope was acquired, the body
ran once with all of them and they were released from the first on, or the body did not
run, and the scopes acquired before the one that refused were released. -/
theorem enter_recordedFrom (scopes : Pack (fun kind => Scope World Failure (Value kind)) kinds)
    (body : Pack Value kinds → Throwing (World × Locals) Failure Result) (world : World) (locals : Locals) :
    (∃ values after, (all scopes).acquire world = (.ok values, after) ∧
      (all (recordedFrom 0 scopes)).enter (recordedBody body) ((world, []), locals) =
        (body values (after, locals)).map fun (result, (world, locals)) =>
          (result, (((all scopes).release values world,
            acquisitions 0 values.toList ++ [.entered values.toList, .left] ++ releases 0 values.toList), locals))) ∨
    ∃ error after refused later, (all scopes).acquire world = (.error error, after) ∧
      (all (recordedFrom 0 scopes)).enter (recordedBody body) ((world, []), locals) =
        some (.error error, ((after, acquisitions (refused + 1) later ++ [.refused refused error] ++
          releases (refused + 1) later), locals)) ∧
      refused + 1 + later.length = kinds.length := by
  rcases acquire_recordedFrom scopes 0 world [] with
    ⟨values, after, plain, traced⟩ | ⟨error, after, refused, later, plain, traced, _, position⟩
  · left
    refine ⟨values, after, plain, ?_⟩
    rw [enter_of_ok traced, recordedBody, Option.map_map]
    congr 1
    funext ⟨result, world, locals⟩
    simp [release_recordedFrom]
  · right
    rw [Nat.zero_add] at position
    refine ⟨error, after, refused, later, plain, ?_, position⟩
    rw [enter_of_error traced, List.nil_append]

end Scope

end SignalPods.Machine
