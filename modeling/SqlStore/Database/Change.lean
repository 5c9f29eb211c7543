/-
# Changing rows

An insert creates its table and then adds all entities in one transaction.  An update compiles
before it creates its table, and a delete creates nothing.  What either of them does is determined
by its text, as is proved in `Proofs.Store.Alike`.
-/
import SqlStore.Database.Load

namespace SqlStore

namespace Db

variable {Column Entity : Type} {t : Table Column Entity}

/-- Inserts entities, all or none; an entity in conflict with rows replaces them or is left out. -/
def insert (t : Table Column Entity) (entities : List Entity) (replace : Bool) : Db Unit := do
  createTable t
  let policy : ConflictPolicy := if replace then .replace else .ignore
  withConnection (transaction (entities.forM fun e =>
    discard (runStatement Fault.asTransaction (t.insert e policy))))

/-- Inserts one entity. -/
def insertOne (t : Table Column Entity) (entity : Entity) (replace : Bool) : Db Unit :=
  insert t [entity] replace

/-- Runs an update, and counts the rows that it changed. -/
def update (q : UpdateQuery t) : Db Nat := do
  discard (orInvalid q.statement.toSql)
  createTable t
  withConnection (runStatement Fault.asStatement (.query (.update q.statement)))

/-- Runs a delete, and counts the rows that it removed. -/
def delete (q : DeleteQuery t) : Db Nat := do
  discard (orInvalid q.statement.toSql)
  withConnection (runStatement Fault.asStatement (.query (.delete q.statement)))

end Db

end SqlStore
