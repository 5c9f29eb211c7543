/-
# The text of a tree is read as the tree

Reading takes two steps back: the lexer finds the tokens that a tree was written with, and the
parser puts them together to the tree.  A token says where it ends, unless it is a number or a
keyword; after these a mark follows, or nothing.

* `JsonLexer.Tokenizes` : a text whose tokens do not depend on what stands around it;
* `JsonParser.run_tokens` : the tokens of a tree supply the tree;
* `Json.parse_compact` : the text of a tree that is written properly is read as the tree.
-/
import SqlStore.Json.Parser
import SqlStore.Proofs.Json.Number
import Mathlib.Data.List.Forall2

namespace SqlStore

namespace JsonLexer

/-! ## Strings -/

/-- What a piece of a string stands for.  Only characters below the surrogates are written by
number. -/
def Denotes (piece : StringPiece) (c : Char) : Prop :=
  piece = .char c ∨ (piece = .unit c.toNat ∧ c.toNat < 0xD800)

/-- Pieces spell the characters that they stand for. -/
theorem spell_of_denotes {pieces : List StringPiece} {s : List Char}
    (h : List.Forall₂ Denotes pieces s) : spell pieces = some s := by
  induction h with
  | nil => rfl
  | @cons piece c rest s hpiece hrest ih =>
      rcases hpiece with rfl | ⟨rfl, hlow⟩
      · rw [spell, ih]
        rfl
      · have hhigh : ¬ (0xD800 ≤ c.toNat ∧ c.toNat < 0xDC00) := by omega
        have hunit : ¬ (0xDC00 ≤ c.toNat ∧ c.toNat < 0xE000) := by omega
        have halone : ¬ (0xD800 ≤ c.toNat ∧ c.toNat < 0xE000) := by omega
        -- Another number may follow, which a high surrogate would be joined with.
        cases rest with
        | nil => rw [spell, if_neg halone, ih, Option.map_some, Char.ofNat_toNat]; simp
        | cons next rest =>
            cases next with
            | char d => rw [spell, if_neg halone, ih, Option.map_some, Char.ofNat_toNat]; simp
            | unit low =>
                rw [spell, if_neg hhigh, if_neg hunit, ih, Option.map_some, Char.ofNat_toNat]

/-- A hexadecimal digit is read as its value. -/
theorem hexValue?_hexDigit {n : Nat} (hn : n < 16) : hexValue? (hexDigit n) = some n := by
  have hall : ∀ n : Fin 16, hexValue? (hexDigit n) = some n.val := by decide
  exact hall ⟨n, hn⟩

/-- A character as it is written inside of a string. -/
theorem run_escape (c : Char) : ∃ piece, Denotes piece c ∧ ∀ pieces done rest,
    run (.string pieces) done (JsonToken.escape c ++ rest)
      = run (.string (piece :: pieces)) done rest := by
  rw [JsonToken.escape.eq_def]
  split
  case h_8 =>
    rename_i hquote hbackslash _ _ _ _ _
    have hquote : c ≠ '"' := hquote
    have hbackslash : c ≠ '\\' := hbackslash
    split
    · rename_i hlow
      refine ⟨.unit c.toNat, .inr ⟨rfl, by omega⟩, fun pieces done rest => ?_⟩
      have htens := hexValue?_hexDigit (n := c.toNat / 16) (by omega)
      have hones := hexValue?_hexDigit (n := c.toNat % 16) (by omega)
      have hzero : hexValue? '0' = some 0 := by decide
      have hvalue : c.toNat / 16 * 16 + c.toNat % 16 = c.toNat := by omega
      simp [run, step, htens, hones, hzero, hvalue]
    · rename_i hhigh
      refine ⟨.char c, .inl rfl, fun pieces done rest => ?_⟩
      simp [run, step, hquote, hbackslash, hhigh]
  all_goals exact ⟨.char _, .inl rfl, fun pieces done rest => rfl⟩

/-- The characters of a string. -/
theorem run_escapes (s : List Char) : ∃ new, List.Forall₂ Denotes new s ∧ ∀ pieces done rest,
    run (.string pieces) done (s.flatMap JsonToken.escape ++ rest)
      = run (.string (new.reverse ++ pieces)) done rest := by
  induction s with
  | nil => exact ⟨[], .nil, fun _ _ _ => rfl⟩
  | cons c s ih =>
      obtain ⟨piece, hpiece, hescape⟩ := run_escape c
      obtain ⟨new, hnew, hrest⟩ := ih
      refine ⟨piece :: new, .cons hpiece hnew, fun pieces done rest => ?_⟩
      rw [List.flatMap_cons, List.append_assoc, hescape, hrest, List.reverse_cons,
        List.append_assoc, List.singleton_append]

/-! ## Tokens -/

/-- The marks that can follow a value or a key. -/
def marks : List Char := [']', '\x7d', ',', ':']

/-- A mark follows, or nothing does. -/
def Ended (rest : List Char) : Prop := ∀ c ∈ rest.head?, c ∈ marks

/-- The text has these tokens wherever it stands, if a mark or nothing follows. -/
def Tokenizes (s : List Char) (ts : List JsonToken) : Prop :=
  ∀ done rest, Ended rest →
    run .between done (s ++ rest) = run .between (ts.reverse ++ done) rest

/-- A mark ends what stands before it. -/
theorem Ended.cons {c : Char} (h : c ∈ marks) (t : List Char) :
    Ended (c :: t) := by
  intro d hd
  rw [List.head?_cons, Option.mem_some_iff] at hd
  exact hd ▸ h

/-- A mark is read on its own, whatever follows. -/
theorem run_mark {c : Char} {t : JsonToken} (h : start c = some (.between, [t]))
    (done : List JsonToken) (rest : List Char) :
    run .between done (c :: rest) = run .between (t :: done) rest := by
  rw [run, step, h]
  rfl

/-- A mark can stand before any text. -/
theorem Tokenizes.mark_append {c : Char} {t : JsonToken} (h : start c = some (.between, [t]))
    {s : List Char} {ts : List JsonToken} (hs : Tokenizes s ts) : Tokenizes (c :: s) (t :: ts) := by
  intro done rest hrest
  rw [List.cons_append, run_mark h, hs _ rest hrest, List.reverse_cons, List.append_assoc,
    List.singleton_append]

/-- A mark can stand between two texts. -/
theorem Tokenizes.append_mark {s : List Char} {ts : List JsonToken} (hs : Tokenizes s ts) {c : Char}
    (hc : c ∈ marks) {t : JsonToken} (h : start c = some (.between, [t])) {u : List Char}
    {us : List JsonToken} (hu : Tokenizes u us) : Tokenizes (s ++ c :: u) (ts ++ t :: us) := by
  intro done rest hrest
  have hended : Ended (c :: u ++ rest) := .cons hc _
  rw [List.append_assoc, hs done _ hended, hu.mark_append h _ rest hrest, List.reverse_append,
    List.append_assoc]

theorem tokenizes_nil : Tokenizes [] [] := fun _ _ _ => rfl

/-- A token that is complete is read when the text ends or goes on with a mark. -/
theorem run_complete {state : State} {token : JsonToken} (hfinish : finish state = some [token])
    (hstep : ∀ c ∈ marks, step state c
      = (start c).map fun (next, tokens) => (next, token :: tokens))
    (done : List JsonToken) {rest : List Char} (hrest : Ended rest) :
    run state done rest = run .between (token :: done) rest := by
  cases rest with
  | nil =>
      rw [run, hfinish, run, finish]
      simp
  | cons c rest =>
      have hc := hrest c rfl
      have hmark : ∃ t, start c = some (.between, [t]) := by
        simp only [marks, List.mem_cons, List.not_mem_nil, or_false] at hc
        rcases hc with rfl | rfl | rfl | rfl
        · exact ⟨.closeArray, rfl⟩
        · exact ⟨.closeObject, rfl⟩
        · exact ⟨.comma, rfl⟩
        · exact ⟨.colon, rfl⟩
      obtain ⟨t, ht⟩ := hmark
      rw [run_mark ht, run, hstep c hc, ht]
      rfl

/-- A mark does not go on with a number. -/
theorem next_mark {part : NumberPart} (h : part.complete = true) :
    ∀ c ∈ marks, part.next c = none := by
  simp only [marks, List.forall_mem_cons]
  cases part with
  | zero | whole | fraction | exponentDigits => exact ⟨rfl, rfl, rfl, rfl, nofun⟩
  | minus | point | exponent | exponentSign => cases h

/-- The characters of a number move its part on. -/
theorem run_number {part last : NumberPart} {s : List Char}
    (h : s.foldlM NumberPart.next part = some last) (lexeme : List Char) (done : List JsonToken)
    (rest : List Char) :
    run (.number part lexeme) done (s ++ rest)
      = run (.number last (s.reverse ++ lexeme)) done rest := by
  induction s generalizing part lexeme with
  | nil =>
      cases h
      rfl
  | cons c s ih =>
      rw [List.foldlM_cons] at h
      cases hnext : part.next c with
      | none =>
          rw [hnext] at h
          cases h
      | some next =>
          rw [hnext] at h
          rw [List.cons_append, run, step, hnext, List.reverse_cons, List.append_assoc]
          exact ih h (c :: lexeme)

/-- A number is one token. -/
theorem tokenizes_number {s : List Char} (h : IsNumber s) :
    Tokenizes s [.number (String.ofList s)] := by
  obtain ⟨c, rest, part, last, rfl, hstart, hlast, hcomplete⟩ := h
  intro done tail htail
  have hfinish : finish (.number last (rest.reverse ++ [c]))
      = some [.number (String.ofList (c :: rest))] := by
    rw [finish, if_pos hcomplete]
    simp
  rw [List.cons_append, run, step, hstart]
  show run (.number part [c]) done (rest ++ tail) = _
  rw [run_number hlast, run_complete hfinish _ done htail]
  · rfl
  · intro d hd
    rw [step, next_mark hcomplete d hd]
    simp [hcomplete]

/-- A keyword is one token. -/
theorem tokenizes_keyword {first : Char} {pending : List Char} {token : JsonToken}
    (h : start first = some (.keyword pending token, [])) :
    Tokenizes (first :: pending) [token] := by
  have hpending (done : List JsonToken) (rest : List Char) :
      run (.keyword pending token) done (pending ++ rest) = run (.keyword [] token) done rest := by
    clear h
    induction pending with
    | nil => rfl
    | cons c pending ih =>
        rw [List.cons_append, run, step, if_pos rfl]
        exact ih
  intro done rest hrest
  rw [List.cons_append, run, step, h]
  show run (.keyword pending token) done (pending ++ rest) = _
  rw [hpending]
  exact run_complete rfl (fun c _ => rfl) done hrest

/-- A string is one token, whatever follows. -/
theorem run_text (s : String) (done : List JsonToken) (rest : List Char) :
    run .between done ((JsonToken.string (some s)).text.toList ++ rest)
      = run .between (.string (some s) :: done) rest := by
  obtain ⟨new, hnew, hrun⟩ := run_escapes s.toList
  have htext : (JsonToken.string (some s)).text.toList ++ rest
      = '"' :: (s.toList.flatMap JsonToken.escape ++ '"' :: rest) := by
    simp [JsonToken.text]
  rw [htext, run]
  show run (.string []) done (s.toList.flatMap JsonToken.escape ++ '"' :: rest) = _
  rw [hrun, run, step, if_pos rfl]
  simp [spell_of_denotes hnew]

/-- A string can stand before any text. -/
theorem Tokenizes.text_append (s : String) {t : List Char} {ts : List JsonToken}
    (ht : Tokenizes t ts) :
    Tokenizes ((JsonToken.string (some s)).text.toList ++ t) (.string (some s) :: ts) := by
  intro done rest hrest
  rw [List.append_assoc, run_text, ht _ rest hrest, List.reverse_cons, List.append_assoc,
    List.singleton_append]

end JsonLexer

/-! ## Trees -/

namespace Json

mutual

/-- Every number is a lexeme, and no string lacks its characters. -/
def Written : Json → Prop
  | null | bool _ => True
  | number lexeme => JsonLexer.IsNumber lexeme.toList
  | string s => s.isSome = true
  | array items => ItemsWritten items
  | object members => MembersWritten members

/-- The items of an array are written properly. -/
def ItemsWritten : List Json → Prop
  | [] => True
  | v :: rest => v.Written ∧ ItemsWritten rest

/-- So are the members of an object, with their keys. -/
def MembersWritten : List (Option String × Json) → Prop
  | [] => True
  | (key, v) :: rest => key.isSome = true ∧ v.Written ∧ MembersWritten rest

end

/-- The characters of a sequence of tokens. -/
def characters (ts : List JsonToken) : List Char := ts.flatMap fun t => t.text.toList

open JsonLexer in
mutual

/-- The text of a tree has the tokens of the tree. -/
theorem tokenizes_tokens : ∀ v : Json, v.Written → Tokenizes (characters v.tokens) v.tokens
  | null, _ => tokenizes_keyword rfl
  | bool true, _ => tokenizes_keyword rfl
  | bool false, _ => tokenizes_keyword rfl
  | number lexeme, h => by
      rw [Written] at h
      simpa [tokens, characters, JsonToken.text] using tokenizes_number h
  | string none, h => by
      rw [Written] at h
      cases h
  | string (some s), _ => by
      simpa [tokens, characters] using tokenizes_nil.text_append s
  | array items, h => by
      rw [Written] at h
      have hopen : start '[' = some (.between, [.openArray]) := rfl
      have hclose : start ']' = some (.between, [.closeArray]) := rfl
      have hitems := (tokenizes_items items h).append_mark (by decide) hclose tokenizes_nil
      simpa [tokens, characters, JsonToken.text] using hitems.mark_append hopen
  | object members, h => by
      rw [Written] at h
      have hopen : start '\x7b' = some (.between, [.openObject]) := rfl
      have hclose : start '\x7d' = some (.between, [.closeObject]) := rfl
      have hmembers := (tokenizes_members members h).append_mark (by decide) hclose tokenizes_nil
      simpa [tokens, characters, JsonToken.text] using hmembers.mark_append hopen

/-- The texts of the items of an array, with commas between them. -/
theorem tokenizes_items : ∀ items : List Json, ItemsWritten items →
    Tokenizes (characters (itemTokens items)) (itemTokens items)
  | [], _ => tokenizes_nil
  | [v], h => by
      rw [ItemsWritten] at h
      simpa [itemTokens] using tokenizes_tokens v h.1
  | v :: w :: rest, h => by
      rw [ItemsWritten] at h
      have hcomma : start ',' = some (.between, [.comma]) := rfl
      have hrest := tokenizes_items (w :: rest) h.2
      simpa [itemTokens, characters, JsonToken.text] using
        (tokenizes_tokens v h.1).append_mark (by decide) hcomma hrest

/-- The texts of the members of an object, with commas between them. -/
theorem tokenizes_members : ∀ members : List (Option String × Json), MembersWritten members →
    Tokenizes (characters (memberTokens members)) (memberTokens members)
  | [], _ => tokenizes_nil
  | (none, _) :: _, h => by
      rw [MembersWritten] at h
      cases h.1
  | [(some key, v)], h => by
      rw [MembersWritten] at h
      have hcolon : start ':' = some (.between, [.colon]) := rfl
      have hvalue := (tokenizes_tokens v h.2.1).mark_append hcolon
      simpa [memberTokens, characters, JsonToken.text] using hvalue.text_append key
  | (some key, v) :: w :: rest, h => by
      rw [MembersWritten] at h
      have hcolon : start ':' = some (.between, [.colon]) := rfl
      have hcomma : start ',' = some (.between, [.comma]) := rfl
      have hrest := tokenizes_members (w :: rest) h.2.2
      have hvalue := ((tokenizes_tokens v h.2.1).append_mark (by decide) hcomma hrest).mark_append
        hcolon
      simpa [memberTokens, characters, JsonToken.text] using hvalue.text_append key

end

end Json

/-- A tree starts with a token that does not end an array. -/
theorem Json.exists_tokens (v : Json) : ∃ t ts, v.tokens = t :: ts ∧ t ≠ .closeArray := by
  cases v <;> exact ⟨_, _, rfl, nofun⟩

namespace JsonParser

/-- So it can be the first item of an array. -/
theorem run_firstItem (v : Json) (stack : List Frame) (rest : List JsonToken) :
    run ⟨stack, .firstItem⟩ (v.tokens ++ rest) = run ⟨stack, .value⟩ (v.tokens ++ rest) := by
  obtain ⟨t, ts, htokens, ht⟩ := v.exists_tokens
  have hstep : step ⟨stack, .firstItem⟩ t = step ⟨stack, .value⟩ t := by
    rw [step.eq_def, step.eq_def]
    split <;> simp_all
  rw [htokens, List.cons_append, run, run, hstep]

mutual

/-- The tokens of a tree supply the tree. -/
theorem run_tokens : ∀ (v : Json) (stack : List Frame) (rest : List JsonToken),
    run ⟨stack, .value⟩ (v.tokens ++ rest) = run (supply v stack) rest
  | .null, _, _ => rfl
  | .bool _, _, _ => rfl
  | .number _, _, _ => rfl
  | .string _, _, _ => rfl
  | .array items, stack, rest => by
      have hitems := run_itemTokens items [] stack rest
      cases items with
      | nil => rfl
      | cons v items =>
          rw [Json.tokens, List.cons_append, List.cons_append, List.append_assoc]
          refine Eq.trans ?_ (hitems (List.cons_ne_nil v items))
          cases items with
          | nil => exact run_firstItem v _ _
          | cons w items =>
              rw [Json.itemTokens, List.append_assoc, List.append_assoc]
              exact run_firstItem v _ _
  | .object members, stack, rest => by
      have hmembers := run_memberTokens members [] stack rest
      cases members with
      | nil => rfl
      | cons m members =>
          rw [Json.tokens, List.cons_append, List.cons_append, List.append_assoc]
          refine Eq.trans ?_ (hmembers (List.cons_ne_nil m members))
          cases members <;> rfl

/-- The tokens of the items of an array, and its end. -/
theorem run_itemTokens : ∀ (items done : List Json) (stack : List Frame) (rest : List JsonToken),
    items ≠ [] →
    run ⟨.array done :: stack, .value⟩ (Json.itemTokens items ++ .closeArray :: rest)
      = run (supply (.array (done.reverse ++ items)) stack) rest
  | [], _, _, _, h => absurd rfl h
  | [v], done, stack, rest, _ => by
      rw [Json.itemTokens, run_tokens]
      show run (supply (.array (v :: done).reverse) stack) rest = _
      rw [List.reverse_cons]
  | v :: w :: items, done, stack, rest, _ => by
      rw [Json.itemTokens, List.append_assoc, run_tokens]
      show run ⟨.array (v :: done) :: stack, .value⟩ (Json.itemTokens (w :: items) ++
        .closeArray :: rest) = _
      rw [run_itemTokens (w :: items) (v :: done) stack rest (List.cons_ne_nil w items),
        List.reverse_cons, List.append_assoc, List.singleton_append]

/-- The tokens of the members of an object, and its end. -/
theorem run_memberTokens : ∀ (members done : List (Option String × Json)) (stack : List Frame)
    (rest : List JsonToken), members ≠ [] →
    run ⟨stack, .key done⟩ (Json.memberTokens members ++ .closeObject :: rest)
      = run (supply (.object (done.reverse ++ members)) stack) rest
  | [], _, _, _, h => absurd rfl h
  | [(key, v)], done, stack, rest, _ => by
      show run ⟨.object done key :: stack, .value⟩ (v.tokens ++ .closeObject :: rest) = _
      rw [run_tokens]
      show run (supply (.object ((key, v) :: done).reverse) stack) rest = _
      rw [List.reverse_cons]
  | (key, v) :: w :: members, done, stack, rest, _ => by
      rw [Json.memberTokens, List.cons_append, List.cons_append, List.append_assoc]
      show run ⟨.object done key :: stack, .value⟩ (v.tokens ++ .comma ::
        (Json.memberTokens (w :: members) ++ .closeObject :: rest)) = _
      rw [run_tokens]
      show run ⟨stack, .key ((key, v) :: done)⟩ (Json.memberTokens (w :: members) ++
        .closeObject :: rest) = _
      rw [run_memberTokens (w :: members) ((key, v) :: done) stack rest
          (List.cons_ne_nil w members), List.reverse_cons, List.append_assoc, List.singleton_append]

end

end JsonParser

/-- The text of a tree that is written properly is read as the tree. -/
theorem Json.parse_compact {v : Json} (h : v.Written) : Json.parse v.compact = some v := by
  have htext : v.compact.toList = characters v.tokens := by
    rw [compact, String.toList_join, List.flatMap_map, characters]
  have htokens : JsonLexer.tokens v.compact = some v.tokens := by
    have hrun := tokenizes_tokens v h [] [] nofun
    rw [List.append_nil, List.append_nil] at hrun
    rw [JsonLexer.tokens, htext, hrun, JsonLexer.run, JsonLexer.finish]
    simp
  have hparse := JsonParser.run_tokens v [] []
  rw [List.append_nil] at hparse
  rw [parse, htokens, Option.bind_some, hparse]
  rfl

end SqlStore
