/-
# Column declarations

A declaration is a name, a kind of data and a list of attributes, written in that order.  The
`PRIMARY KEY` attribute is left out where the table carries a composite key instead.
-/
import SqlStore.Value

namespace SqlStore

/-- The declared type of a column. -/
inductive DataKind
  | integer
  | text
  | real
  | char (size : UInt64)
deriving DecidableEq, Inhabited

/-- The type's name in a declaration. -/
def DataKind.toSql : DataKind → String
  | .integer => "INTEGER"
  | .text => "TEXT"
  | .real => "REAL"
  | .char size => "CHAR(" ++ toString size ++ ")"

/-- A constraint, or the default, of a column. -/
inductive ColumnAttribute
  | primaryKey (autoIncrement : Bool)
  | notNull
  | unique
  | default (value : Value)
deriving Inhabited

namespace ColumnAttribute

/-- Whether the attribute makes the column a primary key. -/
def isPrimaryKey : ColumnAttribute → Bool
  | primaryKey _ => true
  | _ => false

/-- The text of an attribute; keys have none unless they are written inline. -/
def toSql? (inlineKey : Bool) : ColumnAttribute → Option String
  | primaryKey autoIncrement =>
      if inlineKey then
        some (if autoIncrement then "PRIMARY KEY AUTOINCREMENT" else "PRIMARY KEY")
      else none
  | notNull => some "NOT NULL"
  | unique => some "UNIQUE"
  | default value => some ("DEFAULT " ++ value.toSql)

end ColumnAttribute

/-- The declaration of a column. -/
structure ColumnDecl where
  name : String
  kind : DataKind
  attributes : List ColumnAttribute
deriving Inhabited

namespace ColumnDecl

/-- Whether the column is a primary key. -/
def isPrimaryKey (d : ColumnDecl) : Bool := d.attributes.any ColumnAttribute.isPrimaryKey

/-- `name KIND attributes..` -/
def toSql (inlineKey : Bool) (d : ColumnDecl) : String :=
  " ".intercalate (d.name :: d.kind.toSql :: d.attributes.filterMap (·.toSql? inlineKey))

end ColumnDecl

end SqlStore
