/-
# JSON trees and their text

A tree keeps what a reader may still have to judge: a number is its lexeme, an object is the list of
its members with repetitions, and a string is absent when its escapes name half a surrogate pair.
Writing goes through tokens; the text of a tree is the text of its tokens without blanks.
-/
import SqlStore.Double.Shortest
import SqlStore.Text.Hex

namespace SqlStore

/-- The pieces of a JSON text. -/
inductive JsonToken
  | null
  | bool (b : Bool)
  | number (lexeme : String)
  | string (s : Option String)
  | openArray
  | closeArray
  | openObject
  | closeObject
  | comma
  | colon
deriving DecidableEq, Inhabited

/-- A JSON tree. -/
inductive Json
  | null
  | bool (b : Bool)
  | number (lexeme : String)
  | string (s : Option String)
  | array (items : List Json)
  | object (members : List (Option String × Json))
deriving Inhabited

namespace JsonToken

/-- A character of a string as it is written: quotes, backslashes and control characters escaped,
everything else as it is. -/
def escape (c : Char) : List Char :=
  match c with
  | '"' => ['\\', '"']
  | '\\' => ['\\', '\\']
  | '\n' => ['\\', 'n']
  | '\t' => ['\\', 't']
  | '\r' => ['\\', 'r']
  | '\x08' => ['\\', 'b']
  | '\x0c' => ['\\', 'f']
  | c =>
      if c.toNat < 32 then ['\\', 'u', '0', '0', hexDigit (c.toNat / 16), hexDigit (c.toNat % 16)]
      else [c]

/-- The text of a token. -/
def text : JsonToken → String
  | null => "null"
  | bool b => if b then "true" else "false"
  | number lexeme => lexeme
  | string s => String.ofList ('"' :: (s.getD "").toList.flatMap escape ++ ['"'])
  | openArray => "["
  | closeArray => "]"
  | openObject => "\x7b"
  | closeObject => "\x7d"
  | comma => ","
  | colon => ":"

end JsonToken

namespace Json

mutual

/-- The tokens of a tree. -/
def tokens : Json → List JsonToken
  | null => [.null]
  | bool b => [.bool b]
  | number lexeme => [.number lexeme]
  | string s => [.string s]
  | array items => .openArray :: itemTokens items ++ [.closeArray]
  | object members => .openObject :: memberTokens members ++ [.closeObject]

/-- The tokens of the items of an array. -/
def itemTokens : List Json → List JsonToken
  | [] => []
  | v :: [] => v.tokens
  | v :: w :: rest => v.tokens ++ .comma :: itemTokens (w :: rest)

/-- The tokens of the members of an object. -/
def memberTokens : List (Option String × Json) → List JsonToken
  | [] => []
  | (key, v) :: [] => .string key :: .colon :: v.tokens
  | (key, v) :: w :: rest =>
      .string key :: .colon :: v.tokens ++ .comma :: memberTokens (w :: rest)

end

/-- The text of a tree, without blanks. -/
def compact (v : Json) : String := String.join (v.tokens.map JsonToken.text)

/-! ## Building trees -/

/-- A string. -/
def text (s : String) : Json := string (some s)

/-- An integer. -/
def integer (n : Int) : Json := number (toString n)

/-- Reals are positional from `0.00001` up to `10 ^ 16`, and ties go to the even digit. -/
def realLayout : DecimalLayout where
  lowest := -5
  highest := 15
  tie := .even

/-- A real; one that is not finite has no number and is written as null. -/
def real (x : Double) : Json := if x.isFinite then number (x.text realLayout) else null

/-- An object with the given members. -/
def record (members : List (String × Json)) : Json :=
  object (members.map fun m => (some m.1, m.2))

/-- The object with one member. -/
def tagged (tag : String) (content : Json) : Json := record [(tag, content)]

/-- The tree of a value that may be absent. -/
def ofOption {α : Type} (write : α → Json) (v : Option α) : Json := v.elim null write

end Json

end SqlStore
