/-
# Names in statements

A name is written bare, so it has to be an identifier and no reserved word; names that differ only
in the case of ASCII letters are the same name.
-/
namespace SqlStore

/-- Words that can stand for no name. -/
def reservedWords : List String :=
  ["add", "all", "alter", "and", "as", "autoincrement", "between", "case", "check", "collate",
    "commit", "constraint", "create", "default", "deferrable", "delete", "distinct", "drop",
    "else", "escape", "except", "exists", "foreign", "from", "group", "having", "in", "index",
    "insert", "intersect", "into", "is", "isnull", "join", "limit", "not", "nothing", "notnull",
    "null", "on", "or", "order", "primary", "references", "returning", "select", "set", "table",
    "then", "to", "transaction", "union", "unique", "update", "using", "values", "when", "where"]

/-- A character that can start an identifier. -/
def startsIdentifier (c : Char) : Bool := c.isAlpha || c == '_' || '\x7f' < c

/-- A character that can continue an identifier. -/
def continuesIdentifier (c : Char) : Bool := startsIdentifier c || c.isDigit || c == '$'

/-- Whether a text can stand as a name in a statement. -/
def isIdentifier (name : String) : Bool :=
  match name.toList with
  | [] => false
  | c :: rest =>
      startsIdentifier c && rest.all continuesIdentifier && !reservedWords.contains name.toLower

/-- Whether two names are the same name. -/
def sameName (a b : String) : Bool := a.toLower == b.toLower

/-- Whether a name is kept for the database itself. -/
def isSystemName (name : String) : Bool := "sqlite_".isPrefixOf name.toLower

end SqlStore
