import EmbeddedSql.Json.Printer
import EmbeddedSql.Json.Record

/-! How many idle buffers a pool keeps, and which ones. -/

namespace EmbeddedSql.Scratch

structure PoolConfig where
  maxRetained : UInt64 := 16
  /-- Buffers of a larger capacity are dropped instead of kept. -/
  maxBufferLength : UInt64 := 65536
deriving DecidableEq, Repr

namespace PoolConfig

def format : Json.RecordFormat PoolConfig where
  fields :=
    [{ key := "max_retained"
       read := fun tree config =>
         tree.uint64?.map fun value => { config with maxRetained := value } },
      { key := "max_buffer_len"
        read := fun tree config =>
          tree.uint64?.map fun value => { config with maxBufferLength := value } }]
  initial := {}
  hasDefaults := true

def toJson (config : PoolConfig) : Json :=
  .object
    [("max_retained", .integer config.maxRetained.toNat),
      ("max_buffer_len", .integer config.maxBufferLength.toNat)]

end PoolConfig

end EmbeddedSql.Scratch
