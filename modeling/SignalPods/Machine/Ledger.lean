import Mathlib.Data.List.Induction
import Mathlib.Logic.Function.Basic

namespace SignalPods.Machine

/-- What is done with a value whose ownership was handed over. -/
inductive Deed
  | given | used | released
  deriving DecidableEq, Repr

/-- The deeds done with one owned value, oldest first, and the strong
references to the object that wraps it, if one does. -/
structure Account where
  deeds : List Deed := []
  references : Nat := 0
  deriving DecidableEq, Repr

namespace Account

def give (a : Account) : Account := { a with deeds := a.deeds ++ [.given] }

def use (a : Account) : Account := { a with deeds := a.deeds ++ [.used] }

def release (a : Account) : Account := { a with deeds := a.deeds ++ [.released] }

def retain (a : Account) : Account := { a with references := a.references + 1 }

/-- The last reference to go releases the value. -/
def drop (a : Account) : Account :=
  if a.references ≤ 1 then { deeds := a.deeds ++ [.released], references := 0 }
  else { a with references := a.references - 1 }

/-- Handed over and not released yet. -/
def Open (a : Account) : Prop := ∃ n, a.deeds = .given :: List.replicate n .used

/-- Handed over, used some times and then released, with nothing after. -/
def Closed (a : Account) : Prop := ∃ n, a.deeds = .given :: (List.replicate n .used ++ [.released])

variable {a : Account}

theorem give_open (untouched : a.deeds = []) : a.give.Open := ⟨0, by simp [give, untouched]⟩

theorem Open.use (known : a.Open) : a.use.Open := by
  obtain ⟨n, deeds⟩ := known
  exact ⟨n + 1, by simp [Account.use, deeds, List.replicate_succ']⟩

theorem Open.release (known : a.Open) : a.release.Closed := by
  obtain ⟨n, deeds⟩ := known
  exact ⟨n, by simp [Account.release, deeds]⟩

theorem Open.congr {b : Account} (known : a.Open) (same : b.deeds = a.deeds) : b.Open := by
  obtain ⟨n, deeds⟩ := known
  exact ⟨n, same.trans deeds⟩

theorem Open.drop_last (known : a.Open) (last : a.references ≤ 1) : a.drop.Closed := by
  obtain ⟨n, deeds⟩ := known
  exact ⟨n, by simp [drop, if_pos last, deeds]⟩

theorem Open.drop (known : a.Open) (more : 1 < a.references) : a.drop.Open := by
  rw [Account.drop, if_neg (Nat.not_le_of_lt more)]
  exact known.congr rfl

/-- The books of a counted object: it is released exactly when nobody refers
to it any more. -/
structure Counted (a : Account) (n : Nat) : Prop where
  references : a.references = n
  alive : n ≠ 0 → a.Open
  gone : n = 0 → a.Closed

theorem Counted.of_open {n : Nat} (known : a.Open) (references : a.references = n) (positive : n ≠ 0) : a.Counted n :=
  ⟨references, fun _ => known, fun zero => absurd zero positive⟩

theorem counted_create (untouched : a = {}) : a.give.retain.Counted 1 := by
  subst untouched
  exact .of_open ⟨0, rfl⟩ rfl (by decide)

theorem Counted.use {n : Nat} (known : a.Counted (n + 1)) : a.use.Counted (n + 1) :=
  .of_open (known.alive (by simp)).use known.references (by simp)

theorem Counted.retain {n : Nat} (known : a.Counted (n + 1)) : a.retain.Counted (n + 2) :=
  .of_open ((known.alive (by simp)).congr rfl) (congrArg (· + 1) known.references) (by simp)

theorem Counted.drop {n : Nat} (known : a.Counted (n + 1)) : a.drop.Counted n := by
  have isOpen := known.alive (by simp)
  cases n with
  | zero =>
    have last : a.references ≤ 1 := Nat.le_of_eq known.references
    exact ⟨by rw [Account.drop, if_pos last], fun positive => absurd rfl positive, fun _ => isOpen.drop_last last⟩
  | succ n =>
    have more : 1 < a.references := by rw [known.references]; omega
    refine .of_open (isOpen.drop more) ?_ (by simp)
    rw [Account.drop, if_neg (Nat.not_le_of_lt more)]
    exact congrArg (· - 1) known.references

theorem Counted.open_or_closed {n : Nat} (known : a.Counted n) : a.Open ∨ a.Closed := by
  by_cases zero : n = 0
  · exact Or.inr (known.gone zero)
  · exact Or.inl (known.alive zero)

theorem Open.not_released (known : a.Open) : .released ∉ a.deeds := by
  obtain ⟨n, deeds⟩ := known
  simp [deeds, List.mem_replicate]

theorem Closed.released_once (known : a.Closed) : a.deeds.count .released = 1 := by
  obtain ⟨n, deeds⟩ := known
  simp [deeds, List.count_append, List.count_replicate]

theorem Closed.released (known : a.Closed) : .released ∈ a.deeds := by
  have once := known.released_once
  exact List.count_pos_iff.mp (by omega)

theorem Closed.not_open (known : a.Closed) : ¬ a.Open := by
  intro isOpen
  exact isOpen.not_released known.released

end Account

/-- The entries of a ledger. -/
inductive Posting
  | give | use | release | retain | drop
  deriving DecidableEq, Repr

def Account.post (a : Account) : Posting → Account
  | .give => a.give
  | .use => a.use
  | .release => a.release
  | .retain => a.retain
  | .drop => a.drop

variable {Key : Type*} [DecidableEq Key]

/-- A ledger with an entry made for one of its values. -/
def post (accounts : Key → Account) (entry : Key × Posting) : Key → Account :=
  Function.update accounts entry.1 ((accounts entry.1).post entry.2)

/-- Each account sees its own entries only. -/
theorem foldl_post (entries : List (Key × Posting)) (accounts : Key → Account) (key : Key) :
    entries.foldl post accounts key =
      ((entries.filter (·.1 = key)).map (·.2)).foldl Account.post (accounts key) := by
  induction entries using List.reverseRecOn with
  | nil => rfl
  | append_singleton entries entry ih =>
    rw [List.foldl_append, List.foldl_cons, List.foldl_nil, post, Function.update_apply, List.filter_append]
    by_cases same : entry.1 = key
    · simp [same, ih]
    · simp [same, Ne.symm same, ih]

theorem Account.Open.foldl_use {a : Account} (known : a.Open) (n : Nat) :
    ((List.replicate n Posting.use).foldl Account.post a).Open ∧
      ((List.replicate n Posting.use).foldl Account.post a).references = a.references := by
  induction n generalizing a with
  | zero => exact ⟨known, rfl⟩
  | succ n ih => exact ih known.use

end SignalPods.Machine
