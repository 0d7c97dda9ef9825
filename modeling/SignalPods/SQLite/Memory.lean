namespace SignalPods.SQLite

def SQLITE_OK : Nat := 0

def SQLITE_NOMEM : Nat := 7

/-- The answers of the allocator, how many of them were asked for, how many blocks
are allocated, and whether a connection was refused one. -/
structure Memory where
  grants : Nat → Bool
  asked : Nat
  live : Nat
  mallocFailed : Bool

namespace Memory

def plenty : Memory := { grants := fun _ => true, asked := 0, live := 0, mallocFailed := false }

/-- A block that is freed before anything else is done. -/
def request (memory : Memory) : Bool × Memory :=
  (memory.grants memory.asked, { memory with asked := memory.asked + 1 })

def allocate (memory : Memory) : Bool × Memory :=
  let (granted, memory) := memory.request
  (granted, if granted then { memory with live := memory.live + 1 } else memory)

/-- A block for a connection, which notes that it was refused, and is given no other
one after that. -/
def sqlite3DbMallocRawNN (memory : Memory) : Bool × Memory :=
  if memory.mallocFailed then (false, memory)
  else
    let (granted, memory) := memory.allocate
    (granted, if granted then memory else { memory with mallocFailed := true })

def free (memory : Memory) (blocks : Nat) : Memory := { memory with live := memory.live - blocks }

end Memory

end SignalPods.SQLite
