/-
# The tokens of a JSON text

The lexer is an automaton over characters: every character either continues the token at hand or
ends it and starts the next.  It accepts strict JSON only: no raw control character in a string, no
leading zero, no bare point or exponent.
-/
import SqlStore.Json.Basic

namespace SqlStore.JsonLexer

/-! ## Strings -/

/-- One piece of a string as written: a character, or a code unit given by its number. -/
inductive StringPiece
  | char (c : Char)
  | unit (n : Nat)

/-- The string that pieces spell; there is none when half a surrogate pair stands alone. -/
def spell : List StringPiece → Option (List Char)
  | [] => some []
  | .char c :: rest => (spell rest).map (c :: ·)
  | .unit high :: .unit low :: rest =>
      if 0xD800 ≤ high ∧ high < 0xDC00 then
        if 0xDC00 ≤ low ∧ low < 0xE000 then
          (spell rest).map (Char.ofNat (0x10000 + (high - 0xD800) * 0x400 + (low - 0xDC00)) :: ·)
        else none
      else if 0xDC00 ≤ high ∧ high < 0xE000 then none
      else (spell (.unit low :: rest)).map (Char.ofNat high :: ·)
  | .unit n :: rest =>
      if 0xD800 ≤ n ∧ n < 0xE000 then none else (spell rest).map (Char.ofNat n :: ·)

/-- The character that a one-letter escape stands for. -/
def escaped? : Char → Option Char
  | '"' => some '"'
  | '\\' => some '\\'
  | '/' => some '/'
  | 'b' => some '\x08'
  | 'f' => some '\x0c'
  | 'n' => some '\n'
  | 'r' => some '\r'
  | 't' => some '\t'
  | _ => none

/-! ## Numbers -/

/-- How far a number has been read. -/
inductive NumberPart
  | minus
  | zero
  | whole
  | point
  | fraction
  | exponent
  | exponentSign
  | exponentDigits
deriving DecidableEq

/-- The part after one more character, if the number goes on with it. -/
def NumberPart.next (part : NumberPart) (c : Char) : Option NumberPart :=
  match part with
  | .minus => if c = '0' then some .zero else if c.isDigit then some .whole else none
  | .zero => afterWhole c
  | .whole => if c.isDigit then some .whole else afterWhole c
  | .point => if c.isDigit then some .fraction else none
  | .fraction => if c.isDigit then some .fraction else afterFraction c
  | .exponent =>
      if c = '+' ∨ c = '-' then some .exponentSign
      else if c.isDigit then some .exponentDigits else none
  | .exponentSign | .exponentDigits => if c.isDigit then some .exponentDigits else none
where
  /-- What may follow the whole part. -/
  afterWhole (c : Char) : Option NumberPart :=
    if c = '.' then some .point else afterFraction c
  /-- What may follow the fraction. -/
  afterFraction (c : Char) : Option NumberPart :=
    if c = 'e' ∨ c = 'E' then some .exponent else none

/-- Whether the number may end here. -/
def NumberPart.complete : NumberPart → Bool
  | .zero | .whole | .fraction | .exponentDigits => true
  | _ => false

/-! ## The automaton -/

/-- What the lexer is in the middle of; characters and pieces read so far are in reverse order. -/
inductive State
  | between
  | keyword (pending : List Char) (token : JsonToken)
  | string (pieces : List StringPiece)
  | escape (pieces : List StringPiece)
  | unit (pieces : List StringPiece) (digits value : Nat)
  | number (part : NumberPart) (lexeme : List Char)

/-- The state after a character that starts something, and the token that it is on its own. -/
def start (c : Char) : Option (State × List JsonToken) :=
  match c with
  | ' ' | '\t' | '\n' | '\r' => some (.between, [])
  | '[' => some (.between, [.openArray])
  | ']' => some (.between, [.closeArray])
  | '\x7b' => some (.between, [.openObject])
  | '\x7d' => some (.between, [.closeObject])
  | ',' => some (.between, [.comma])
  | ':' => some (.between, [.colon])
  | '"' => some (.string [], [])
  | 'n' => some (.keyword ['u', 'l', 'l'] .null, [])
  | 't' => some (.keyword ['r', 'u', 'e'] (.bool true), [])
  | 'f' => some (.keyword ['a', 'l', 's', 'e'] (.bool false), [])
  | '-' => some (.number .minus ['-'], [])
  | '0' => some (.number .zero ['0'], [])
  | c => if c.isDigit then some (.number .whole [c], []) else none

/-- One step of the automaton: the state after a character and the tokens that it completes. -/
def step (state : State) (c : Char) : Option (State × List JsonToken) :=
  match state with
  | .between => start c
  | .keyword [] token => (start c).map fun (next, tokens) => (next, token :: tokens)
  | .keyword (expected :: pending) token =>
      if c = expected then some (.keyword pending token, []) else none
  | .string pieces =>
      if c = '"' then some (.between, [.string ((spell pieces.reverse).map String.ofList)])
      else if c = '\\' then some (.escape pieces, [])
      else if c.toNat < 32 then none
      else some (.string (.char c :: pieces), [])
  | .escape pieces =>
      if c = 'u' then some (.unit pieces 0 0, [])
      else (escaped? c).map fun e => (.string (.char e :: pieces), [])
  | .unit pieces digits value => do
      let value := value * 16 + (← hexValue? c)
      if digits = 3 then return (.string (.unit value :: pieces), [])
      else return (.unit pieces (digits + 1) value, [])
  | .number part lexeme =>
      match part.next c with
      | some next => some (.number next (c :: lexeme), [])
      | none =>
          if part.complete then
            (start c).map fun (next, tokens) =>
              (next, .number (String.ofList lexeme.reverse) :: tokens)
          else none

/-- The token that the end of the text completes; there is none inside a string. -/
def finish : State → Option (List JsonToken)
  | .between => some []
  | .keyword [] token => some [token]
  | .number part lexeme =>
      if part.complete then some [.number (String.ofList lexeme.reverse)] else none
  | _ => none

/-- The tokens from a state on, after those already read in reverse order. -/
def run : State → List JsonToken → List Char → Option (List JsonToken)
  | state, done, [] => (finish state).map fun last => done.reverse ++ last
  | state, done, c :: rest =>
      match step state c with
      | some (next, tokens) => run next (tokens.reverse ++ done) rest
      | none => none

/-- The tokens of a text. -/
def tokens (s : String) : Option (List JsonToken) := run .between [] s.toList

end SqlStore.JsonLexer
