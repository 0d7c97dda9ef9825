import SignalPods.Foundation.LinearProbing
import SignalPods.SQLite.Memory

namespace SignalPods.SQLite

open Foundation

section Sizes

/-- With four bytes for an integer and eight for a pointer. -/
def BITVEC_SZ : Nat := 512

def BITVEC_USIZE : Nat := (BITVEC_SZ - 3 * 4) / 8 * 8

def BITVEC_SZELEM : Nat := 8

def BITVEC_NELEM : Nat := BITVEC_USIZE / 1

def BITVEC_NBIT : Nat := BITVEC_NELEM * BITVEC_SZELEM

def BITVEC_NINT : Nat := BITVEC_USIZE / 4

def BITVEC_MXHASH : Nat := BITVEC_NINT / 2

def BITVEC_NPTR : Nat := BITVEC_USIZE / 8

def BITVEC_HASH (i : Nat) : Fin BITVEC_NINT := ⟨i * 1 % BITVEC_NINT, Nat.mod_lt _ (by decide)⟩

end Sizes

/-- A bitmap by what its union holds. The members not read in a representation are left out. -/
inductive Bitvec
  | null
  | bitmap (iSize : Nat) (aBitmap : Fin BITVEC_NELEM → BitVec BITVEC_SZELEM)
  | hash (iSize nSet : Nat) (aHash : Fin BITVEC_NINT → Nat)
  | split (iSize iDivisor : Nat) (apSub : Fin BITVEC_NPTR → Bitvec)

namespace Bitvec

/-- A zeroed bitmap of a size. -/
def zeroed (iSize : Nat) : Bitvec :=
  if iSize ≤ BITVEC_NBIT then bitmap iSize fun _ => 0 else hash iSize 0 fun _ => 0

def sqlite3BitvecCreate (memory : Memory) (iSize : Nat) : Memory × Bitvec :=
  let (granted, memory) := memory.allocate
  (memory, if granted then zeroed iSize else null)

def sqlite3BitvecSize : Bitvec → Nat
  | null => 0
  | bitmap iSize _ => iSize
  | hash iSize _ _ => iSize
  | split iSize _ _ => iSize

/-- The bit of an index within its element. -/
def mask (i : Nat) : BitVec BITVEC_SZELEM := 1 <<< (i % BITVEC_SZELEM)

/-- The hash table is searched for the number of a bit, which is one more than its index. -/
def search (aHash : Fin BITVEC_NINT → Nat) (i : Nat) : Option (Fin BITVEC_NINT) :=
  probe 0 (i + 1) aHash BITVEC_NINT (BITVEC_HASH i)

/-- The bit with an index, once it is known to be one of those there are. Nothing is
returned where the code would read past an array or search forever. -/
def testIndex : Bitvec → Nat → Option Bool
  | null, _ => some false
  | bitmap _ aBitmap, i =>
    if inside : i / BITVEC_SZELEM < BITVEC_NELEM then
      some ((aBitmap ⟨i / BITVEC_SZELEM, inside⟩ &&& mask i) != 0)
    else none
  | hash _ _ aHash, i => (search aHash i).map fun h => aHash h == i + 1
  | split _ iDivisor apSub, i =>
    if inside : i / iDivisor < BITVEC_NPTR then testIndex (apSub ⟨i / iDivisor, inside⟩) (i % iDivisor) else none

def sqlite3BitvecTestNotNull (p : Bitvec) (i : Nat) : Option Bool :=
  let i := (i + (2 ^ 32 - 1)) % 2 ^ 32
  if sqlite3BitvecSize p ≤ i then some false else testIndex p i

def sqlite3BitvecTest (p : Bitvec) (i : Nat) : Option Bool :=
  match p with
  | null => some false
  | p => sqlite3BitvecTestNotNull p i

/-- What is redirected to, created where there is none. -/
def subBitmap (memory : Memory) (iDivisor : Nat) : Bitvec → Memory × Bitvec
  | null => sqlite3BitvecCreate memory iDivisor
  | p => (memory, p)

/-- Some bits are set one after another, whatever comes of each. -/
def setEach (set : Memory → Bitvec → Nat → Option (Nat × Memory × Bitvec)) (memory : Memory) (p : Bitvec)
    (values : List Nat) : Option (Nat × Memory × Bitvec) :=
  values.foldlM (fun (rc, memory, p) value => do
    let (failed, memory, p) ← set memory p value
    return (rc ||| failed, memory, p)) (SQLITE_OK, memory, p)

/-- The bit with an index is set. The fuel is spent on bitmaps passed on the way. -/
def setIndex : Nat → Memory → Bitvec → Nat → Option (Nat × Memory × Bitvec)
  | 0, _, _, _ => none
  | _ + 1, memory, null, _ => some (SQLITE_OK, memory, null)
  | _ + 1, memory, bitmap iSize aBitmap, i =>
    if inside : i / BITVEC_SZELEM < BITVEC_NELEM then
      let element := aBitmap ⟨i / BITVEC_SZELEM, inside⟩ ||| mask i
      some (SQLITE_OK, memory, bitmap iSize (Function.update aBitmap ⟨i / BITVEC_SZELEM, inside⟩ element))
    else none
  | fuel + 1, memory, hash iSize nSet aHash, i => do
    let h ← search aHash i
    if aHash h = i + 1 then return (SQLITE_OK, memory, hash iSize nSet aHash)
    else if h = BITVEC_HASH i ∧ nSet < BITVEC_NINT - 1 ∨ nSet < BITVEC_MXHASH then
      return (SQLITE_OK, memory, hash iSize (nSet + 1) (Function.update aHash h (i + 1)))
    else
      let (granted, memory) := memory.request
      if granted then
        let divided := split iSize ((iSize + BITVEC_NPTR - 1) / BITVEC_NPTR) fun _ => null
        let aiValues := entries 0 aHash
        setEach (setIndex fuel) memory divided (i :: aiValues.map (· - 1))
      else return (SQLITE_NOMEM, memory, hash iSize nSet aHash)
  | fuel + 1, memory, split iSize iDivisor apSub, i =>
    if inside : i / iDivisor < BITVEC_NPTR then
      match subBitmap memory iDivisor (apSub ⟨i / iDivisor, inside⟩) with
      | (memory, null) => some (SQLITE_NOMEM, memory, split iSize iDivisor apSub)
      | (memory, sub) => do
        let (rc, memory, sub) ← setIndex fuel memory sub (i % iDivisor)
        return (rc, memory, split iSize iDivisor (Function.update apSub ⟨i / iDivisor, inside⟩ sub))
    else none

def sqlite3BitvecSet (memory : Memory) (p : Bitvec) (i : Nat) : Option (Nat × Memory × Bitvec) :=
  setIndex (2 * sqlite3BitvecSize p + 2) memory p (i - 1)

def clearIndex : Bitvec → Nat → Option Bitvec
  | null, _ => some null
  | bitmap iSize aBitmap, i =>
    if inside : i / BITVEC_SZELEM < BITVEC_NELEM then
      let element := aBitmap ⟨i / BITVEC_SZELEM, inside⟩ &&& ~~~mask i
      some (bitmap iSize (Function.update aBitmap ⟨i / BITVEC_SZELEM, inside⟩ element))
    else none
  | hash iSize _ aHash, i => do
    let kept := (entries 0 aHash).filter (· ≠ i + 1)
    let aHash ← kept.foldlM (place 0 fun value => BITVEC_HASH (value - 1)) fun _ => 0
    return hash iSize kept.length aHash
  | split iSize iDivisor apSub, i =>
    if inside : i / iDivisor < BITVEC_NPTR then do
      let sub ← clearIndex (apSub ⟨i / iDivisor, inside⟩) (i % iDivisor)
      return split iSize iDivisor (Function.update apSub ⟨i / iDivisor, inside⟩ sub)
    else none

def sqlite3BitvecClear (p : Bitvec) (i : Nat) : Option Bitvec := clearIndex p (i - 1)

def sqlite3BitvecDestroy : Memory → Bitvec → Memory
  | memory, null => memory
  | memory, split _ _ apSub =>
    let memory := (List.finRange BITVEC_NPTR).foldl (fun memory bin => sqlite3BitvecDestroy memory (apSub bin)) memory
    memory.free 1
  | memory, _ => memory.free 1

end Bitvec

end SignalPods.SQLite
