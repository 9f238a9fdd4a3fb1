import EmbeddedSql.Scratch.Config
import EmbeddedSql.Text.Bytes

/-! A pool of reusable byte buffers. A conversion rents a buffer, fills it and
gives it back; idle buffers are handed out again, the most recently returned
one first. -/

namespace EmbeddedSql.Scratch

structure Growth where
  next : (capacity needed : Nat) → Nat
  enough : ∀ capacity needed, needed ≤ next capacity needed

def Growth.exact : Growth where
  next _ needed := needed
  enough _ _ := Nat.le_refl _

def Growth.doubling : Growth where
  next capacity needed := max (2 * capacity) needed
  enough capacity needed := Nat.le_max_right (2 * capacity) needed

/-! ## Buffers -/

/-- The serial number tells the allocations of one pool apart. -/
structure Buffer where
  serial : Nat
  capacity : Nat
  contents : Bytes := []
deriving DecidableEq, Repr

namespace Buffer

def length (buffer : Buffer) : Nat :=
  buffer.contents.length

def reserve (growth : Growth) (needed : Nat) (buffer : Buffer) : Buffer :=
  if buffer.capacity < needed then
    { buffer with capacity := growth.next buffer.capacity needed }
  else buffer

def append (growth : Growth) (bytes : Bytes) (buffer : Buffer) : Buffer :=
  let contents := buffer.contents ++ bytes
  { buffer.reserve growth contents.length with contents }

end Buffer

/-! ## Pools -/

/-- Capacities have no limit. That a pool or a buffer can be too large to be allocated at all is
left out. -/
structure Pool where
  config : PoolConfig := {}
  /-- The most recently returned buffer is first. -/
  idle : List Buffer := []
  /-- Buffers allocated so far, which is the next serial number. -/
  allocated : Nat := 0
  /-- Buffers that are out at the moment. -/
  rented : Nat := 0
  /-- The most buffers that were ever out together. -/
  mostRented : Nat := 0
deriving DecidableEq, Repr

namespace Pool

def available (pool : Pool) : Nat :=
  pool.idle.length

def rent (growth : Growth) (minimum : Nat) (pool : Pool) : Buffer × Pool :=
  let rented := pool.rented + 1
  let mostRented := max pool.mostRented rented
  match pool.idle with
  | recycled :: idle =>
      (({ recycled with contents := [] } : Buffer).reserve growth minimum,
        { pool with idle, rented, mostRented })
  | [] =>
      ({ serial := pool.allocated, capacity := growth.next 0 minimum },
        { pool with allocated := pool.allocated + 1, rented, mostRented })

/-- A returned buffer is kept unless it is too large or enough are idle. -/
def giveBack (buffer : Buffer) (pool : Pool) : Pool :=
  let pool := { pool with rented := pool.rented - 1 }
  if pool.config.maxBufferLength.toNat < buffer.capacity then pool
  else if pool.available < pool.config.maxRetained.toNat then
    { pool with idle := buffer :: pool.idle }
  else pool

end Pool

end EmbeddedSql.Scratch
