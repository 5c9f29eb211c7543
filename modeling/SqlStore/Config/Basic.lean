/-
# Engine configuration

A configuration names the database file, how to open it and the two lanes of the engine.  Only the
path has to be given.
-/
import SqlStore.Json.Decode

namespace SqlStore

/-- How a database keeps its journal. -/
inductive JournalMode
  | delete
  | truncate
  | persist
  | memory
  | wal
  | off
deriving DecidableEq, Inhabited

namespace JournalMode

/-- Every mode. -/
def all : List JournalMode := [delete, truncate, persist, memory, wal, off]

/-- The name of a mode. -/
def name : JournalMode → String
  | delete => "DELETE"
  | truncate => "TRUNCATE"
  | persist => "PERSIST"
  | memory => "MEMORY"
  | wal => "WAL"
  | off => "OFF"

/-- The name of a mode in configuration files. -/
def tag (m : JournalMode) : String := String.ofList (m.name.toList.map Char.toLower)

/-- The mode of a name, in any mixture of upper and lower case. -/
def ofName? (s : String) : Option JournalMode :=
  all.find? fun m => m.name.toList == s.toList.map Char.toUpper

/-- The tree of a mode. -/
def toJson (m : JournalMode) : Json := .text m.tag

/-- Reads a mode. -/
def ofJson? : Nat → Json → Option JournalMode := Json.choice? (all.map fun m => (m.tag, m))

end JournalMode

/-- The settings of an engine. -/
structure EngineConfig where
  path : String
  readOnly : Bool
  /-- The journal mode to set after opening. -/
  journalMode : Option JournalMode
  accessLane : String
  migrationLane : String
deriving DecidableEq, Inhabited

namespace EngineConfig

/-- The name of the access lane unless another one is given. -/
def defaultAccessLane : String := "sqlservice-access"

/-- The name of the migration lane unless another one is given. -/
def defaultMigrationLane : String := "sqlservice-migration"

/-- The defaults for a path. -/
def ofPath (path : String) : EngineConfig :=
  { path, readOnly := false, journalMode := none, accessLane := defaultAccessLane
    migrationLane := defaultMigrationLane }

/-- The tree of a configuration. -/
def toJson (c : EngineConfig) : Json :=
  .record [("path", .text c.path), ("read_only", .bool c.readOnly),
    ("journal_mode", .ofOption JournalMode.toJson c.journalMode),
    ("access_lane_name", .text c.accessLane), ("migration_lane_name", .text c.migrationLane)]

/-- The names of the fields, in order. -/
def fieldNames : List String :=
  ["path", "read_only", "journal_mode", "access_lane_name", "migration_lane_name"]

/-- Reads a configuration. -/
def ofJson? : Nat → Json → Option EngineConfig
  | depth + 1, v => do
      let f ← v.fields? fieldNames
      return { path := ← f.required "path" Json.text?
               readOnly := ← f.defaulted "read_only" Json.bool? false
               journalMode :=
                 ← f.defaulted "journal_mode" (Json.option? (JournalMode.ofJson? depth)) none
               accessLane := ← f.defaulted "access_lane_name" Json.text? defaultAccessLane
               migrationLane :=
                 ← f.defaulted "migration_lane_name" Json.text? defaultMigrationLane }
  | _, _ => none

end EngineConfig

end SqlStore
