import Schematic.Derivation

/-!
A cache of derivations, failed ones included, keyed by type.  The entry used longest ago
makes room for a new one.  A type that cannot serve as a key is derived anew each time and
leaves the cache alone, and a derivation that a fault stops is not kept.
-/

namespace Schematic

structure SchemaCache where
  capacity : Nat
  /-- The derivations that are kept, the one used last first. -/
  entries : List (TypeExpr × Except Failure Schema)
  hits : Nat
  misses : Nat

namespace SchemaCache

def empty (capacity : Nat) : SchemaCache :=
  ⟨capacity, [], 0, 0⟩

/-- The number of entries kept unless another number is asked for. -/
def defaultCapacity : Nat := 256

/-- The entry whose key equals a type, and the other entries in their order. -/
def takeEntry (type : TypeExpr) : List (TypeExpr × Except Failure Schema) →
    Option ((TypeExpr × Except Failure Schema) × List (TypeExpr × Except Failure Schema))
  | [] => none
  | entry :: rest =>
    if entry.1.same type then some (entry, rest)
    else (takeEntry type rest).map fun (found, others) => (found, entry :: others)

/-- What asking the cache gives: the schema, the cache afterwards, and whether the schema was
derived for it. -/
structure Answer where
  schema : Except Underivable Schema
  cache : SchemaCache
  derived : Bool

def keep (cache : SchemaCache) (type : TypeExpr) (schema : Except Underivable Schema) :
    SchemaCache :=
  let kept (schema : Except Failure Schema) : List (TypeExpr × Except Failure Schema) :=
    ((type, schema) :: cache.entries).take cache.capacity
  { cache with
    misses := cache.misses + 1
    entries := match schema with
      | .ok schema => kept (.ok schema)
      | .error (.failure failure) => kept (.error failure)
      | .error (.fault _) => cache.entries }

/-- The schema of a type, from the cache if it is there. -/
def get (cache : SchemaCache) (derive : TypeExpr → Except Underivable Schema) (type : TypeExpr) :
    Answer :=
  if type.isKey then
    match takeEntry type cache.entries with
    | some (entry, others) =>
      ⟨entry.2.mapError .failure, { cache with entries := entry :: others, hits := cache.hits + 1 },
        false⟩
    | none =>
      let schema := derive type
      ⟨schema, cache.keep type schema, true⟩
  else ⟨derive type, cache, true⟩

end SchemaCache
end Schematic
