import SignalPods.LibSignal.ReturnConverters
import Mathlib.Data.List.Forall2

namespace SignalPods.LibSignal

variable {memory : NativeMemory}

def NonNullPointer.pointer (value : NonNullPointer) : Int := value.val

/-- A termination reason that is neither null nor `MAP_FAILED` is an error. -/
def terminationOwned (raw : Int) : List Resource := if raw = 0 ∨ raw = -1 then [] else [.error raw]

/-- What a leaf value owns. -/
def LeafConverter.owned (memory : NativeMemory) : (kind : LeafConverter) → (kind.converter memory).FfiReturn →
    List Resource
  | .data, value => value.base.toList.map .buffer
  | .string, value => value.toList.map .string
  | .optionalString, value => value.toList.map .string
  | .bridgeHandle, value => [.handle (NonNullPointer.pointer value)]
  | .error, value => [.error (NonNullPointer.pointer value)]
  | .optionalError, value => value.toList.map .error
  | .bulkPolledStreamTermination, value => terminationOwned value
  | .backupCdnCredentials, value => [.listOfStrings value.1.base, .listOfStrings value.2.base]
  | _, _ => []

namespace ReturnType

/-- What a value owns: what its leaves own, and a spine for each array. -/
def owned (memory : NativeMemory) : (t : ReturnType) → (t.converter memory).FfiReturn → List Resource
  | .leaf kind, value => kind.owned memory value
  | .array element, value => value.elements.flatMap (element.owned memory) ++ [.spine value.base]
  | .pair first second, value => first.owned memory value.first ++ second.owned memory value.second
  | .optional inner, value => if value.present then inner.owned memory value.value else []

/-- The leaves of a value, from left to right. -/
def leaves (memory : NativeMemory) : (t : ReturnType) → (t.converter memory).FfiReturn →
    List (Σ kind : LeafConverter, (kind.converter memory).FfiReturn)
  | .leaf kind, value => [⟨kind, value⟩]
  | .array element, value => value.elements.flatMap (element.leaves memory)
  | .pair first second, value => first.leaves memory value.first ++ second.leaves memory value.second
  | .optional inner, value => if value.present then inner.leaves memory value.value else []

/-- A result of the same structure, with each leaf converted in its place. -/
def Image (memory : NativeMemory) : (t : ReturnType) → (t.converter memory).FfiReturn →
    (t.converter memory).NiceReturn → Prop
  | .leaf kind, value, nice => ((kind.converter memory).convertReturn value).result = .ok nice
  | .array element, value, nice => List.Forall₂ (element.Image memory) value.elements nice
  | .pair first second, value, nice => first.Image memory value.first nice.1 ∧ second.Image memory value.second nice.2
  | .optional inner, value, nice =>
    if value.present then ∃ content, nice = some content ∧ inner.Image memory value.value content else nice = none

end ReturnType

/-- Whether a conversion throws. -/
def Conversion.throws {Nice : Type} (conversion : Conversion Nice) : Bool :=
  match conversion.result with
  | .error _ => true
  | .ok _ => false

theorem Conversion.throws_eq_false_iff {Nice : Type} {conversion : Conversion Nice} :
    conversion.throws = false ↔ ∃ nice, conversion.result = .ok nice := by
  unfold Conversion.throws
  cases conversion.result <;> simp

/-- A leaf consumes what it owns, whether it throws or not. -/
theorem LeafConverter.consumed_eq (kind : LeafConverter) (value : (kind.converter memory).FfiReturn) :
    (((kind.converter memory).convertReturn value).consumed.map Consumption.resource) = kind.owned memory value := by
  cases kind with
  | data =>
    obtain ⟨base, contents⟩ := value
    cases base <;> rfl
  | string => cases value <;> rfl
  | optionalString => cases value <;> rfl
  | optionalError => cases value <;> rfl
  | bulkPolledStreamTermination =>
    simp only [LeafConverter.converter, BulkPolledStreamTerminationConverter, LeafConverter.owned, terminationOwned]
    split <;> rfl
  | _ => rfl

section Array

variable (Converter : NiceReturnConverter)

/-- The loop consumes every element, and remembers whether one of them threw. -/
theorem foldl_step (xs : List Converter.FfiReturn) (loop : ArrayLoop Converter.NiceReturn) :
    (xs.foldl (ArrayLoop.step Converter) loop).consumed =
        loop.consumed ++ xs.flatMap (fun x => (Converter.convertReturn x).consumed) ∧
      ((xs.foldl (ArrayLoop.step Converter) loop).err = none ↔
        loop.err = none ∧ ∀ x ∈ xs, (Converter.convertReturn x).throws = false) ∧
      (xs.foldl (ArrayLoop.step Converter) loop).out =
        loop.out ++ xs.filterMap (fun x => (Converter.convertReturn x).result.toOption) := by
  induction xs generalizing loop with
  | nil => simp
  | cons x xs ih =>
    obtain ⟨consumed, err, out⟩ := ih (ArrayLoop.step Converter loop x)
    rw [List.foldl_cons, consumed, err, out]
    unfold ArrayLoop.step Conversion.throws
    cases result : (Converter.convertReturn x).result with
    | ok value => simp [result, Except.toOption]
    | error error => simp [result, Except.toOption]

theorem array_consumed (value : OwnedBufferOfMaxAligned Converter.FfiReturn) :
    ((ArrayReturnConverter Converter).convertReturn value).consumed =
      value.elements.flatMap (fun x => (Converter.convertReturn x).consumed) ++ [.freed (.spine value.base)] := by
  have loop := (foldl_step Converter value.elements {}).1
  simp only [ArrayReturnConverter, loop, List.nil_append]

/-- The elements of an array whose conversion succeeds, in order. -/
theorem forall₂_converted {xs : List Converter.FfiReturn}
    (fine : ∀ x ∈ xs, (Converter.convertReturn x).throws = false) :
    List.Forall₂ (fun x y => (Converter.convertReturn x).result = .ok y) xs
      (xs.filterMap fun x => (Converter.convertReturn x).result.toOption) := by
  induction xs with
  | nil => exact .nil
  | cons x xs ih =>
    obtain ⟨value, result⟩ := Conversion.throws_eq_false_iff.mp (fine x List.mem_cons_self)
    have rest := ih fun other member => fine other (List.mem_cons_of_mem _ member)
    rw [List.filterMap_cons_some (b := value) (by rw [result]; rfl)]
    exact .cons result rest

theorem converted_of_forall₂ {xs : List Converter.FfiReturn} {ys : List Converter.NiceReturn}
    (images : List.Forall₂ (fun x y => (Converter.convertReturn x).result = .ok y) xs ys) :
    (∀ x ∈ xs, (Converter.convertReturn x).throws = false) ∧
      (xs.filterMap fun x => (Converter.convertReturn x).result.toOption) = ys := by
  induction images with
  | nil => simp
  | @cons x y xs ys result _ ih =>
    have first := Conversion.throws_eq_false_iff.mpr ⟨y, result⟩
    refine ⟨List.forall_mem_cons.mpr ⟨first, ih.1⟩, ?_⟩
    rw [List.filterMap_cons_some (b := y) (by rw [result]; rfl), ih.2]

/-- An array is converted element by element or not at all. -/
theorem array_result_iff (value : OwnedBufferOfMaxAligned Converter.FfiReturn) (nice : List Converter.NiceReturn) :
    ((ArrayReturnConverter Converter).convertReturn value).result = .ok nice ↔
      List.Forall₂ (fun x y => (Converter.convertReturn x).result = .ok y) value.elements nice := by
  obtain ⟨_, err, out⟩ := foldl_step Converter value.elements {}
  simp only [true_and, List.nil_append] at err out
  simp only [ArrayReturnConverter]
  constructor
  · intro converted
    cases failed : (value.elements.foldl (ArrayLoop.step Converter) {}).err with
    | some error => simp [failed] at converted
    | none =>
      have same : nice = value.elements.filterMap fun x => (Converter.convertReturn x).result.toOption := by
        simpa [failed, out] using converted.symm
      rw [same]
      exact forall₂_converted Converter (err.mp failed)
  · intro images
    obtain ⟨fine, same⟩ := converted_of_forall₂ Converter images
    rw [err.mpr fine, out, same]

/-- An array throws exactly when one of its elements does. -/
theorem array_throws_iff (value : OwnedBufferOfMaxAligned Converter.FfiReturn) :
    ((ArrayReturnConverter Converter).convertReturn value).throws = true ↔
      ∃ x ∈ value.elements, (Converter.convertReturn x).throws = true := by
  obtain ⟨_, err, _⟩ := foldl_step Converter value.elements {}
  have thrown : ((ArrayReturnConverter Converter).convertReturn value).throws =
      (value.elements.foldl (ArrayLoop.step Converter) {}).err.isSome := by
    simp only [Conversion.throws, ArrayReturnConverter]
    cases (value.elements.foldl (ArrayLoop.step Converter) {}).err <;> rfl
  rw [thrown, Option.isSome_iff_ne_none, ne_eq, err]
  simp

end Array

/-- A pair throws exactly when one of its halves does. -/
theorem pair_throws_iff {First Second : NiceReturnConverter} (value : SignalPairOf First.FfiReturn Second.FfiReturn) :
    ((PairOfResultConverter First Second).convertReturn value).throws = true ↔
      (First.convertReturn value.first).throws = true ∨ (Second.convertReturn value.second).throws = true := by
  simp only [Conversion.throws, PairOfResultConverter]
  cases (First.convertReturn value.first).result <;> cases (Second.convertReturn value.second).result <;>
    simp [bind, Except.bind, pure, Except.pure]

theorem pair_result_iff {First Second : NiceReturnConverter} (value : SignalPairOf First.FfiReturn Second.FfiReturn)
    (nice : First.NiceReturn × Second.NiceReturn) :
    ((PairOfResultConverter First Second).convertReturn value).result = .ok nice ↔
      (First.convertReturn value.first).result = .ok nice.1 ∧
        (Second.convertReturn value.second).result = .ok nice.2 := by
  obtain ⟨left, right⟩ := nice
  simp only [PairOfResultConverter]
  cases (First.convertReturn value.first).result <;> cases (Second.convertReturn value.second).result <;>
    simp [bind, Except.bind, pure, Except.pure]

theorem optional_result_iff {Inner : NiceReturnConverter} (value : SignalOptionalOf Inner.FfiReturn)
    (nice : Option Inner.NiceReturn) :
    ((OptionalReturnConverter Inner).convertReturn value).result = .ok nice ↔
      if value.present then ∃ content, nice = some content ∧ (Inner.convertReturn value.value).result = .ok content
      else nice = none := by
  obtain ⟨present, value⟩ := value
  cases present with
  | false =>
    simp only [OptionalReturnConverter, Bool.false_eq_true, if_false, Except.ok.injEq]
    exact eq_comm
  | true =>
    simp only [OptionalReturnConverter, if_true]
    cases (Inner.convertReturn value).result with
    | error error => simp [Except.map]
    | ok content =>
      simp only [Except.map, Except.ok.injEq, exists_eq_right']
      exact eq_comm

namespace ReturnType

/-- What a value owns is consumed piece by piece, on every path. -/
theorem consumed_eq (t : ReturnType) (value : (t.converter memory).FfiReturn) :
    ((t.converter memory).convertReturn value).consumed.map Consumption.resource = t.owned memory value := by
  induction t with
  | leaf kind => exact kind.consumed_eq value
  | array element ih =>
    obtain ⟨base, elements⟩ := value
    simp only [converter, array_consumed, owned, List.map_append, List.map_flatMap, List.map_singleton, ih]
    rfl
  | pair first second ihFirst ihSecond =>
    simp only [converter, PairOfResultConverter, owned, List.map_append, ihFirst, ihSecond]
  | optional inner ih =>
    obtain ⟨present, value⟩ := value
    cases present with
    | false => rfl
    | true => exact ih value

theorem throws_iff (t : ReturnType) (value : (t.converter memory).FfiReturn) :
    ((t.converter memory).convertReturn value).throws = true ↔
      ∃ leaf ∈ t.leaves memory value, ((leaf.1.converter memory).convertReturn leaf.2).throws = true := by
  induction t with
  | leaf kind => simp [leaves, converter]
  | array element ih =>
    refine (array_throws_iff _ value).trans ?_
    simp only [leaves, List.mem_flatMap]
    constructor
    · rintro ⟨x, member, thrown⟩
      obtain ⟨leaf, inside, leafThrows⟩ := (ih x).mp thrown
      exact ⟨leaf, ⟨x, member, inside⟩, leafThrows⟩
    · rintro ⟨leaf, ⟨x, member, inside⟩, leafThrows⟩
      exact ⟨x, member, (ih x).mpr ⟨leaf, inside, leafThrows⟩⟩
  | pair first second ihFirst ihSecond =>
    refine (pair_throws_iff value).trans ?_
    rw [ihFirst, ihSecond]
    simp only [leaves, List.mem_append, or_and_right, exists_or]
  | optional inner ih =>
    obtain ⟨present, value⟩ := value
    cases present with
    | false => simp [converter, OptionalReturnConverter, Conversion.throws, leaves]
    | true =>
      refine Iff.trans ?_ (ih value)
      simp only [converter, OptionalReturnConverter, Conversion.throws, if_true]
      cases ((inner.converter memory).convertReturn value).result <;> simp [Except.map]

/-- What comes back is the image of the value, and nothing else comes back. -/
theorem result_iff (t : ReturnType) (value : (t.converter memory).FfiReturn) (nice : (t.converter memory).NiceReturn) :
    ((t.converter memory).convertReturn value).result = .ok nice ↔ t.Image memory value nice := by
  induction t with
  | leaf kind => exact Iff.rfl
  | array element ih =>
    refine (array_result_iff _ value nice).trans ?_
    have same : (fun x y => ((element.converter memory).convertReturn x).result = .ok y) = element.Image memory := by
      funext x y
      exact propext (ih x y)
    rw [same]
    rfl
  | pair first second ihFirst ihSecond =>
    refine (pair_result_iff value nice).trans ?_
    rw [ihFirst, ihSecond]
    rfl
  | optional inner ih =>
    refine (optional_result_iff value nice).trans ?_
    simp only [ih]
    rfl

/-- A conversion consumes what the value owns once, piece by piece, whether it
returns or throws; it throws exactly when some leaf does; and what it returns is
the image of the value. -/
theorem convertReturn_consumes (memory : NativeMemory) (t : ReturnType) (value : (t.converter memory).FfiReturn) :
    ((t.converter memory).convertReturn value).consumed.map Consumption.resource = t.owned memory value ∧
      (((t.converter memory).convertReturn value).throws = true ↔
        ∃ leaf ∈ t.leaves memory value, ((leaf.1.converter memory).convertReturn leaf.2).throws = true) ∧
      ∀ nice, ((t.converter memory).convertReturn value).result = .ok nice → t.Image memory value nice :=
  ⟨t.consumed_eq value, t.throws_iff value, fun nice => (t.result_iff value nice).mp⟩

end ReturnType

end SignalPods.LibSignal
