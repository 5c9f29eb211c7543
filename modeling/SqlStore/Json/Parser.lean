/-
# Reading JSON

The parser keeps the open arrays and objects on a stack, so that nesting costs nothing but memory.
`Json.parse` reads a text that holds exactly one tree.
-/
import SqlStore.Json.Lexer

namespace SqlStore.JsonParser

/-- An array or object whose end has not been read; its parts so far are in reverse order. -/
inductive Frame
  | array (items : List Json)
  | object (members : List (Option String × Json)) (key : Option String)

/-- What the next token may be. -/
inductive Expected
  /-- A value. -/
  | value
  /-- A value or the end of the empty array. -/
  | firstItem
  /-- A key or the end of the empty object. -/
  | firstKey (members : List (Option String × Json))
  /-- A key. -/
  | key (members : List (Option String × Json))
  /-- The colon after a key. -/
  | colon (members : List (Option String × Json)) (key : Option String)
  /-- A comma or the end of the innermost array or object. -/
  | separator
  /-- Nothing: the tree is complete. -/
  | nothing (result : Json)

/-- The open arrays and objects, innermost first, and what may come next. -/
structure State where
  stack : List Frame
  expected : Expected

/-- Hands a complete value to the innermost frame. -/
def supply (v : Json) : List Frame → State
  | [] => ⟨[], .nothing v⟩
  | .array items :: outer => ⟨.array (v :: items) :: outer, .separator⟩
  | .object members key :: outer => ⟨.object ((key, v) :: members) none :: outer, .separator⟩

/-- Reads a token where a value has to come. -/
def startValue (stack : List Frame) : JsonToken → Option State
  | .null => some (supply .null stack)
  | .bool b => some (supply (.bool b) stack)
  | .number lexeme => some (supply (.number lexeme) stack)
  | .string s => some (supply (.string s) stack)
  | .openArray => some ⟨.array [] :: stack, .firstItem⟩
  | .openObject => some ⟨stack, .firstKey []⟩
  | _ => none

/-- One step of the parser. -/
def step (s : State) (token : JsonToken) : Option State :=
  match s.expected, s.stack, token with
  | .value, stack, token => startValue stack token
  | .firstItem, .array _ :: outer, .closeArray => some (supply (.array []) outer)
  | .firstItem, stack, token => startValue stack token
  | .firstKey members, outer, .closeObject => some (supply (.object members.reverse) outer)
  | .firstKey members, stack, .string key => some ⟨stack, .colon members key⟩
  | .key members, stack, .string key => some ⟨stack, .colon members key⟩
  | .colon members key, stack, .colon => some ⟨.object members key :: stack, .value⟩
  | .separator, .array items :: outer, .closeArray => some (supply (.array items.reverse) outer)
  | .separator, .array items :: outer, .comma => some ⟨.array items :: outer, .value⟩
  | .separator, .object members _ :: outer, .closeObject =>
      some (supply (.object members.reverse) outer)
  | .separator, .object members _ :: outer, .comma => some ⟨outer, .key members⟩
  | _, _, _ => none

/-- Runs the parser over tokens. -/
def run : State → List JsonToken → Option Json
  | s, [] =>
      match s.expected with
      | .nothing result => some result
      | _ => none
  | s, token :: rest =>
      match step s token with
      | some next => run next rest
      | none => none

end SqlStore.JsonParser

namespace SqlStore

/-- The tree of a text that holds one tree and nothing else. -/
def Json.parse (s : String) : Option Json :=
  (JsonLexer.tokens s).bind (JsonParser.run ⟨[], .value⟩)

end SqlStore
