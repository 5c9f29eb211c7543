/-
# YAML documents

The reader covers what configuration files use: block mappings and sequences, flow collections,
plain and quoted scalars, comments and document marks.  A plain scalar remembers that it was not
quoted, because only then can it be a truth value or null.
-/
import SqlStore.Text.Hex

namespace SqlStore

/-- A node of a document. -/
inductive Yaml
  | scalar (text : String) (plain : Bool)
  | sequence (items : List Yaml)
  | mapping (entries : List (Yaml × Yaml))
deriving Inhabited

namespace Yaml

/-- What a missing node stands for. -/
def absent : Yaml := scalar "" true

/-! ## Quoted scalars -/

/-- The character of a number, if there is one. -/
def charOfNumber? (n : Nat) : Option Char :=
  if h : n.isValidChar then some (Char.ofNatAux n h) else none

/-- The character that a one-letter escape stands for. -/
def escaped? : Char → Option Char
  | '0' => some '\x00'
  | 'a' => some '\x07'
  | 'b' => some '\x08'
  | 't' => some '\t'
  | '\t' => some '\t'
  | 'n' => some '\n'
  | 'v' => some '\x0b'
  | 'f' => some '\x0c'
  | 'r' => some '\r'
  | 'e' => some '\x1b'
  | ' ' => some ' '
  | '"' => some '"'
  | '/' => some '/'
  | '\\' => some '\\'
  | 'N' => some '\u0085'
  | '_' => some '\u00a0'
  | 'L' => some '\u2028'
  | 'P' => some '\u2029'
  | _ => none

/-- What a double-quoted scalar is in the middle of. -/
inductive DoubleState
  | plain
  | escape
  | code (left : Nat) (digits : List Char)

/-- Reads a double-quoted scalar after its opening quote; characters so far are in reverse. -/
def doubleQuoted : DoubleState → List Char → List Char → Option (String × List Char)
  | .plain, done, '"' :: rest => some (String.ofList done.reverse, rest)
  | .plain, done, '\\' :: rest => doubleQuoted .escape done rest
  | .plain, done, c :: rest => doubleQuoted .plain (c :: done) rest
  | .escape, done, 'x' :: rest => doubleQuoted (.code 2 []) done rest
  | .escape, done, 'u' :: rest => doubleQuoted (.code 4 []) done rest
  | .escape, done, 'U' :: rest => doubleQuoted (.code 8 []) done rest
  | .escape, done, c :: rest =>
      match escaped? c with
      | some e => doubleQuoted .plain (e :: done) rest
      | none => none
  | .code (left + 2) digits, done, c :: rest =>
      doubleQuoted (.code (left + 1) (c :: digits)) done rest
  | .code _ digits, done, c :: rest =>
      match (hexNumber? (c :: digits).reverse).bind charOfNumber? with
      | some e => doubleQuoted .plain (e :: done) rest
      | none => none
  | _, _, [] => none

/-- Reads a single-quoted scalar after its opening quote; a doubled quote stands for one. -/
def singleQuoted (done : List Char) : List Char → Option (String × List Char)
  | '\'' :: '\'' :: rest => singleQuoted ('\'' :: done) rest
  | '\'' :: rest => some (String.ofList done.reverse, rest)
  | c :: rest => singleQuoted (c :: done) rest
  | [] => none

/-- Reads a quoted scalar with either quote. -/
def quoted? : List Char → Option (String × List Char)
  | '"' :: rest => doubleQuoted .plain [] rest
  | '\'' :: rest => singleQuoted [] rest
  | _ => none

/-! ## Plain scalars -/

/-- Whether a character is a blank. -/
def isBlank (c : Char) : Bool := c == ' ' || c == '\t'

/-- Whether a plain scalar may start here. -/
def startsPlain (flow : Bool) : List Char → Bool
  | c :: rest =>
      if c = '-' ∨ c = '?' ∨ c = ':' then
        match rest with
        | d :: _ => !isBlank d && d != '\n' && !(flow && ",[]\x7b\x7d".toList.contains d)
        | [] => false
      else !isBlank c && !(",[]\x7b\x7d#&*!|>'\"%@\x60".toList.contains c)
  | [] => false

/-- Splits off a plain scalar: it ends at a line end, at a comment, at a colon before a blank and,
in a flow collection, at an indicator. -/
def plainChars (flow : Bool) : List Char → List Char × List Char
  | [] => ([], [])
  | c :: rest =>
      let ends :=
        c == '\n' ||
        (isBlank c && rest.head? == some '#') ||
        (c == ':' && (rest.head?.all fun d =>
          isBlank d || d == '\n' || (flow && ",[]\x7b\x7d".toList.contains d))) ||
        (flow && ",[]\x7b\x7d".toList.contains c)
      if ends then ([], c :: rest)
      else
        let (word, after) := plainChars flow rest
        (c :: word, after)

/-- Drops blanks at the end. -/
def trimEnd (cs : List Char) : List Char := (cs.reverse.dropWhile isBlank).reverse

/-- Reads a plain scalar. -/
def plain? (flow : Bool) (cs : List Char) : Option (String × List Char) :=
  if startsPlain flow cs then
    let (word, rest) := plainChars flow cs
    some (String.ofList (trimEnd word), rest)
  else none

/-! ## Flow collections -/

/-- Drops blanks, line ends and comments between the parts of a flow collection. -/
def skipSpace : Bool → List Char → List Char
  | _, '\n' :: rest => skipSpace false rest
  | true, _ :: rest => skipSpace true rest
  | false, c :: rest =>
      if isBlank c then
        match rest with
        | '#' :: _ => skipSpace true rest
        | _ => skipSpace false rest
      else c :: rest
  | _, [] => []

/-- A stack of open flow collections: items, or entries with a key that waits for its value. -/
inductive FlowFrame
  | sequence (items : List Yaml)
  | mapping (entries : List (Yaml × Yaml)) (key : Option Yaml)

/-- Hands a node to the innermost collection: an item, a value, or a key without value so far. -/
def FlowFrame.supply (v : Yaml) : FlowFrame → FlowFrame
  | sequence items => sequence (v :: items)
  | mapping entries (some key) => mapping ((key, v) :: entries) none
  | mapping entries none => mapping entries (some v)

/-- The node of a collection that ends here. -/
def FlowFrame.close : FlowFrame → Yaml
  | sequence items => .sequence items.reverse
  | mapping entries (some key) => .mapping ((key, absent) :: entries).reverse
  | mapping entries none => .mapping entries.reverse

/-- Reads a flow collection with the given open collections.  `ready` tells whether a node may come
next, `valued` whether the innermost entry is past its colon.  The fuel bounds the characters. -/
def flow (fuel : Nat) (stack : List FlowFrame) (ready valued : Bool) (cs : List Char) :
    Option (Yaml × List Char) :=
  match fuel with
  | 0 => none
  | fuel + 1 =>
      match stack, skipSpace false cs with
      | .sequence items :: outer, ']' :: rest =>
          finish fuel (FlowFrame.close (.sequence items)) outer rest
      | .mapping entries key :: outer, '\x7d' :: rest =>
          finish fuel (FlowFrame.close (.mapping entries key)) outer rest
      | .sequence items :: outer, ',' :: rest =>
          if ready then none else flow fuel (.sequence items :: outer) true false rest
      | .mapping entries key :: outer, ',' :: rest =>
          if ready && !valued then none
          else
            let entries := match key with
              | some key => (key, absent) :: entries
              | none => entries
            flow fuel (.mapping entries none :: outer) true false rest
      | .mapping entries (some key) :: outer, ':' :: rest =>
          if valued then none
          else flow fuel (.mapping entries (some key) :: outer) true true rest
      | stack, '[' :: rest =>
          if ready then flow fuel (.sequence [] :: stack) true false rest else none
      | stack, '\x7b' :: rest =>
          if ready then flow fuel (.mapping [] none :: stack) true false rest else none
      | stack, rest =>
          if ready then
            match quoted? rest with
            | some (s, rest) => finish fuel (.scalar s false) stack rest
            | none =>
                match plain? true rest with
                | some (s, rest) => finish fuel (.scalar s true) stack rest
                | none => none
          else none
where
  /-- Goes on after a complete node. -/
  finish (fuel : Nat) (v : Yaml) (stack : List FlowFrame) (rest : List Char) :
      Option (Yaml × List Char) :=
    match stack with
    | [] => some (v, rest)
    | top :: outer => flow fuel (top.supply v :: outer) false false rest

/-! ## Lines -/

/-- A line with its indentation; blank lines and comments are left out. -/
structure Line where
  indent : Nat
  content : List Char
deriving Inhabited

/-- The line of a text, absent when it is blank or a comment. -/
def Line.ofText? (text : String) : Option Line :=
  let chars := text.toList.filter (· != '\r')
  let content := chars.dropWhile (· == ' ')
  match content.dropWhile isBlank with
  | [] => none
  | '#' :: _ => none
  | _ => some ⟨chars.length - content.length, content⟩

/-- Whether only blanks or a comment follow. -/
def endsLine (cs : List Char) : Bool :=
  match cs.dropWhile isBlank with
  | [] => true
  | '#' :: _ => cs.head?.any isBlank
  | _ => false

/-- Whether a line is an item of a block sequence. -/
def isItem : List Char → Bool
  | '-' :: c :: _ => isBlank c
  | ['-'] => true
  | _ => false

/-- The key of an entry of a block mapping and the text after its colon. -/
def splitEntry (cs : List Char) : Option (Yaml × List Char) := do
  let (key, plain, rest) ←
    match quoted? cs with
    | some (s, rest) => some (s, false, rest)
    | none => (plain? false cs).map fun (s, rest) => (s, true, rest)
  match rest.dropWhile isBlank with
  | ':' :: after =>
      if after.head?.all isBlank then some (.scalar key plain, after.dropWhile isBlank) else none
  | _ => none

/-- Reads a scalar or flow collection that starts on a line; it may go on for further lines that
are indented deeper than `indent`. -/
def inline (indent : Nat) (cs : List Char) : List Line → Option (Yaml × List Line)
  | lines =>
      match cs with
      | '[' :: _ | '\x7b' :: _ => flowLines cs lines
      | '"' :: _ | '\'' :: _ =>
          match quoted? cs with
          | some (s, rest) => if endsLine rest then some (.scalar s false, lines) else none
          | none => none
      | cs =>
          match plain? false cs with
          | some (s, rest) =>
              if endsLine rest then
                let (more, after) := lines.span fun l => indent < l.indent
                if more.all fun l => (splitEntry l.content).isNone then
                  some (.scalar (" ".intercalate
                    (s :: more.map fun l => String.ofList (trimEnd (plainChars false l.content).1)))
                    true, after)
                else none
              else none
          | none => none
where
  /-- Takes in lines until the collection is closed. -/
  flowLines (cs : List Char) : List Line → Option (Yaml × List Line)
    | [] => (flow (cs.length + 1) [] true false cs).bind fun (v, rest) =>
        if endsLine rest then some (v, []) else none
    | line :: lines =>
        match flow (cs.length + 1) [] true false cs with
        | some (v, rest) => if endsLine rest then some (v, line :: lines) else none
        | none => flowLines (cs ++ '\n' :: line.content) lines

/-! ## Blocks -/

/-- Reads the block that starts at the first line.  The fuel bounds the nodes. -/
def block (fuel : Nat) (lines : List Line) : Option (Yaml × List Line) :=
  match fuel, lines with
  | 0, _ => none
  | _, [] => some (absent, [])
  | fuel + 1, line :: rest =>
      if isItem line.content then items fuel line.indent [] (line :: rest)
      else if (splitEntry line.content).isSome then entries fuel line.indent [] (line :: rest)
      else inline 0 line.content rest
where
  /-- Reads the items of a block sequence. -/
  items (fuel : Nat) (indent : Nat) (done : List Yaml) (lines : List Line) :
      Option (Yaml × List Line) :=
    match fuel, lines with
    | 0, _ => none
    | fuel + 1, line :: rest =>
        if line.indent = indent ∧ isItem line.content then do
          let content := (line.content.drop 1).dropWhile isBlank
          let (v, rest) ←
            if endsLine (' ' :: content) then
              match rest with
              | next :: _ => if indent < next.indent then block fuel rest else some (absent, rest)
              | [] => some (absent, rest)
            else
              block fuel (⟨indent + (line.content.length - content.length), content⟩ :: rest)
          items fuel indent (v :: done) rest
        else if indent < line.indent then none
        else some (.sequence done.reverse, line :: rest)
    | _, [] => some (.sequence done.reverse, [])
  /-- Reads the entries of a block mapping. -/
  entries (fuel : Nat) (indent : Nat) (done : List (Yaml × Yaml)) (lines : List Line) :
      Option (Yaml × List Line) :=
    match fuel, lines with
    | 0, _ => none
    | fuel + 1, line :: rest =>
        if line.indent = indent ∧ !isItem line.content then do
          let (key, content) ← splitEntry line.content
          let (v, rest) ←
            if endsLine (' ' :: content) then
              match rest with
              | next :: _ =>
                  if indent < next.indent ∨ (indent = next.indent ∧ isItem next.content) then
                    block fuel rest
                  else some (absent, rest)
              | [] => some (absent, rest)
            else inline indent content rest
          entries fuel indent ((key, v) :: done) rest
        else if indent < line.indent then none
        else some (.mapping done.reverse, line :: rest)
    | _, [] => some (.mapping done.reverse, [])

/-- Whether a line is the given mark of a document. -/
def isMark (mark : List Char) (line : Line) : Bool :=
  line.indent == 0 && mark.isPrefixOf line.content && endsLine (line.content.drop 3)

/-- Whether a character may occur in a document. -/
def isAllowed (c : Char) : Bool :=
  c == '\t' || c == '\n' || c == '\r' || c == '\u0085' ||
    (32 ≤ c.toNat && c.toNat ≤ 126) || (160 ≤ c.toNat && c.toNat != 0xFFFE && c.toNat != 0xFFFF)

/-- The node of a text that holds one document, before which there may be a byte order mark. -/
def parse (s : String) : Option Yaml := do
  let s := if s.front == '\ufeff' then (s.drop 1).toString else s
  if !s.toList.all isAllowed then none
  let lines := (s.splitOn "\n").filterMap Line.ofText?
  let lines := match lines with
    | first :: rest => if isMark ['-', '-', '-'] first then rest else lines
    | [] => []
  let (body, after) := lines.span fun l => !isMark ['-', '-', '-'] l && !isMark ['.', '.', '.'] l
  if after.any fun l => !isMark ['.', '.', '.'] l then none
  let (v, rest) ← block (2 * s.length + 2) body
  if rest.isEmpty then some v else none

end Yaml

end SqlStore
