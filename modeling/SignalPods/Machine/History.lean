import Mathlib.Data.List.Induction
import Mathlib.Logic.Function.Basic

namespace SignalPods.Machine

variable {Event Value : Type*}

/-- An event of a longer history is the last one or was there before. -/
theorem concat_eq_split_iff {events past rest : List Event} {last event : Event} :
    events ++ [last] = past ++ event :: rest ↔
      (rest = [] ∧ past = events ∧ event = last) ∨ ∃ before, rest = before ++ [last] ∧ events = past ++ event :: before := by
  constructor
  · intro split
    rcases List.eq_nil_or_concat rest with rfl | ⟨before, final, rfl⟩
    · obtain ⟨same, atEnd⟩ := List.append_inj' split rfl
      exact Or.inl ⟨rfl, same.symm, (List.singleton_inj.mp atEnd).symm⟩
    · rw [List.concat_eq_append, ← List.cons_append, ← List.append_assoc] at split
      obtain ⟨inside, atEnd⟩ := List.append_inj' split rfl
      exact Or.inr ⟨before, by rw [atEnd, List.concat_eq_append], inside⟩
  · rintro (⟨rfl, rfl, rfl⟩ | ⟨before, rfl, rfl⟩)
    · rfl
    · rw [List.append_assoc, List.cons_append]

/-- The value carried by the most recent event that carries one. -/
def latest (carried : Event → Option Value) (events : List Event) : Option Value :=
  (events.filterMap carried).getLast?

variable (carried : Event → Option Value)

@[simp] theorem latest_nil : latest carried [] = none := rfl

theorem latest_append (events later : List Event) :
    latest carried (events ++ later) = (latest carried later).or (latest carried events) := by
  simp only [latest, List.filterMap_append, List.getLast?_append]

theorem latest_singleton (event : Event) : latest carried [event] = carried event := by
  cases value : carried event <;> simp [latest, value]

@[simp] theorem latest_concat (events : List Event) (event : Event) :
    latest carried (events ++ [event]) = (carried event).or (latest carried events) := by
  rw [latest_append, latest_singleton]

/-- A latest value was carried by an event after which no event carries one. -/
theorem latest_eq_some_iff {events : List Event} {value : Value} :
    latest carried events = some value ↔
      ∃ before event after, events = before ++ event :: after ∧ carried event = some value ∧
        ∀ later ∈ after, carried later = none := by
  induction events using List.reverseRecOn with
  | nil => simp
  | append_singleton events event ih =>
    rw [latest_concat, Option.or_eq_some_iff]
    constructor
    · rintro (here | ⟨silent, earlier⟩)
      · exact ⟨events, event, [], rfl, here, by simp⟩
      · obtain ⟨before, source, after, rfl, value, quiet⟩ := ih.mp earlier
        refine ⟨before, source, after ++ [event], by simp, value, ?_⟩
        intro later member
        rcases List.mem_append.mp member with inside | last
        · exact quiet later inside
        · rw [List.mem_singleton.mp last]; exact silent
    · rintro ⟨before, source, after, split, value, quiet⟩
      rcases concat_eq_split_iff.mp split with ⟨rfl, rfl, rfl⟩ | ⟨inside, rfl, rfl⟩
      · exact Or.inl value
      · have silent := quiet event (by simp)
        refine Or.inr ⟨silent, ih.mpr ⟨before, source, inside, rfl, value, ?_⟩⟩
        intro later member
        exact quiet later (List.mem_append_left _ member)

/-- A table filled entry by entry holds the last entry made under a key. -/
theorem foldl_update_eq_latest {Key Item : Type*} [DecidableEq Key] (key : Item → Key) (value : Item → Value)
    (items : List Item) (table : Key → Option Value) (wanted : Key) :
    items.foldl (fun table item => Function.update table (key item) (some (value item))) table wanted =
      (latest (fun item => if key item = wanted then some (value item) else none) items).or (table wanted) := by
  induction items using List.reverseRecOn with
  | nil => rfl
  | append_singleton items item ih =>
    rw [List.foldl_append, List.foldl_cons, List.foldl_nil, latest_concat, Function.update_apply, ih]
    by_cases same : key item = wanted
    · simp [same]
    · simp [same, Ne.symm same]

theorem latest_isSome_iff {events : List Event} :
    (latest carried events).isSome ↔ ∃ event ∈ events, (carried event).isSome := by
  rw [latest, List.getLast?_isSome]
  simp only [ne_eq, List.filterMap_eq_nil_iff, not_forall, exists_prop, Option.isSome_iff_ne_none]

theorem latest_map {Other : Type*} (f : Value → Other) (events : List Event) :
    latest (fun event => (carried event).map f) events = (latest carried events).map f := by
  rw [latest, latest, ← List.map_filterMap, List.getLast?_map]

end SignalPods.Machine
