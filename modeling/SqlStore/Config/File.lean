/-
# Configuration files

The extension of the file decides how its text is read.  A file that is missing is reported before
its extension is looked at.
-/
import SqlStore.Config.Basic
import SqlStore.Config.Yaml
import SqlStore.Error

namespace SqlStore

/-! ## Fields of a YAML node -/

namespace Yaml

/-- A string: the text of any scalar. -/
def text? : Yaml → Option String
  | scalar s _ => some s
  | _ => none

/-- A truth value, which is never quoted. -/
def bool? : Yaml → Option Bool
  | scalar s true =>
      if s ∈ ["true", "True", "TRUE"] then some true
      else if s ∈ ["false", "False", "FALSE"] then some false
      else none
  | _ => none

/-- Whether a node is null. -/
def isNull : Yaml → Bool
  | scalar s true => s ∈ ["", "~", "null", "Null", "NULL"]
  | _ => false

/-- A journal mode, or null. -/
def journalMode? (v : Yaml) : Option (Option JournalMode) :=
  if v.isNull then some none
  else v.text?.bind fun s => (JournalMode.all.find? fun m => m.tag == s).map some

/-- The entries of a mapping that have one of the given keys, none of them twice.  A sequence gives
the values of the keys in their order, and may end early. -/
def fields? (names : List String) : Yaml → Option (List (String × Yaml))
  | mapping entries => do
      let entries ← entries.mapM fun (key, v) => key.text?.map (·, v)
      let known := entries.filter fun e => names.contains e.1
      if Json.repeated (known.map Prod.fst) then none else return known
  | sequence items => if items.length ≤ names.length then some (names.zip items) else none
  | scalar .. => none

/-- A field with a value for when it is absent. -/
def defaulted {α : Type} (fields : List (String × Yaml)) (name : String) (read : Yaml → Option α)
    (fallback : α) : Option α :=
  match fields.lookup name with
  | some v => read v
  | none => some fallback

end Yaml

namespace EngineConfig

/-- Reads a configuration from a YAML node. -/
def ofYaml? (v : Yaml) : Option EngineConfig := do
  let f ← v.fields? fieldNames
  return { path := ← (f.lookup "path").bind Yaml.text?
           readOnly := ← Yaml.defaulted f "read_only" Yaml.bool? false
           journalMode := ← Yaml.defaulted f "journal_mode" Yaml.journalMode? none
           accessLane := ← Yaml.defaulted f "access_lane_name" Yaml.text? defaultAccessLane
           migrationLane :=
             ← Yaml.defaulted f "migration_lane_name" Yaml.text? defaultMigrationLane }

/-- The formats of configuration files. -/
inductive FileFormat
  | yaml
  | json
deriving DecidableEq

/-- The format that the extension of a file name tells.  A name that only starts with a point has
no extension. -/
def FileFormat.ofFileName? (file : String) : Option FileFormat :=
  let name := (file.toList.reverse.takeWhile (· != '/')).reverse
  let extension := (name.reverse.takeWhile (· != '.')).reverse
  if name.length ≤ extension.length + 1 then none
  else
    match String.ofList (extension.map Char.toLower) with
    | "yml" | "yaml" => some .yaml
    | "json" => some .json
    | _ => none

/-- The configuration of a file with the given content; a file that is missing has none. -/
def load (file : String) (content : Option String) : Except StoreError EngineConfig :=
  match content with
  | none => .error (.io "no such file")
  | some content =>
      let parsed :=
        match FileFormat.ofFileName? file with
        | some .yaml => some ((Yaml.parse content).bind ofYaml?)
        | some .json => some (Json.decode? ofJson? content)
        | none => none
      match parsed with
      | some (some config) => .ok config
      | some none => .error (.config (file ++ ": "))
      | none => .error (.config (file ++ ": expected a .yml, .yaml or .json file"))

end EngineConfig

end SqlStore
