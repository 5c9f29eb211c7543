/-
# Literals that end by themselves

A literal can be read from the start of a text without knowing where it ends: a text ends at the
first quote that is not doubled, a list at the parenthesis that closes it, and a word or a number
where a blank or a mark follows.  What is read is the value, up to booleans, which are integers, and
reals that are not finite, which are `NULL`.

* `Constant.ofValue` : what the literal of a value denotes;
* `Constant.read?` : reads one literal and leaves the text behind it;
* `Constant.reads_toSql` : the literal of a value is read to its end, and no further;
* `Value.literals_end_by_themselves` : so no two values have one literal, and no two lists one text.
-/
import SqlStore.Proofs.Store.Number

namespace SqlStore

/-! ## Constants -/

/-- What an SQL literal denotes. -/
inductive Constant
  | cell (c : Cell)
  | list (items : List Constant)
deriving Inhabited

namespace Constant

mutual

/-- What the literal of a value denotes. -/
def ofValue : Value → Constant
  | .integer n => cell (.integer n)
  | .real x => cell (if x.isFinite then .real x else .null)
  | .text s => cell (.text s)
  | .boolean b => cell (.integer (if b then 1 else 0))
  | .list items => list (ofValues items)

/-- What the literals of several values denote. -/
def ofValues : List Value → List Constant
  | [] => []
  | v :: vs => ofValue v :: ofValues vs

end

/-- What a word denotes. -/
def ofWord? (w : String) : Option Constant :=
  if w = "NULL" then some (cell .null) else (numberOfText? w).map cell

end Constant

/-! ## Tokens at the start of a text -/

/-- A character that a word goes on with.  A semicolon ends a word. -/
def isWordChar (c : Char) : Bool := charRole c = .run false && c ≠ ';'

/-- Reads on behind a quote to the quote that ends the text, which is not doubled. -/
def quotedText? : List Char → Option (List Char × List Char)
  | [] => none
  | '\'' :: '\'' :: rest => (quotedText? rest).map fun (s, rest) => ('\'' :: s, rest)
  | '\'' :: rest => some ([], rest)
  | c :: rest => (quotedText? rest).map fun (s, rest) => (c :: s, rest)

/-- Reads one token of a literal, blanks before it apart. -/
def token? : List Char → Option (Token × List Char)
  | [] => none
  | c :: rest =>
      match charRole c with
      | .blank => token? rest
      | .mark t => some (t, rest)
      | .quote => (quotedText? rest).map fun (s, rest) => (.text (String.ofList s), rest)
      | .run _ =>
          if isWordChar c then
            some (.word (String.ofList (c :: rest.takeWhile isWordChar)), rest.dropWhile isWordChar)
          else none

/-- What is left behind a text is shorter. -/
theorem length_of_quotedText? {cs s rest : List Char} (h : quotedText? cs = some (s, rest)) :
    rest.length < cs.length := by
  fun_induction quotedText? cs generalizing s with
  | case1 => cases h
  | case2 cs ih =>
      obtain ⟨⟨s, rest⟩, hread, ⟨⟩⟩ := Option.map_eq_some_iff.mp h
      have := ih hread
      simp only [List.length_cons]
      omega
  | case3 cs hcs =>
      cases h
      simp
  | case4 c cs hquotes hquote ih =>
      obtain ⟨⟨s, rest⟩, hread, ⟨⟩⟩ := Option.map_eq_some_iff.mp h
      have := ih hread
      simp only [List.length_cons]
      omega

/-- What is left behind a token is shorter. -/
theorem length_of_token? {cs rest : List Char} {t : Token} (h : token? cs = some (t, rest)) :
    rest.length < cs.length := by
  induction cs with
  | nil => cases h
  | cons c cs ih =>
      rw [token?] at h
      rw [List.length_cons]
      split at h
      · have := ih h
        omega
      · cases h
        omega
      · obtain ⟨⟨s, behind⟩, hread, ⟨⟩⟩ := Option.map_eq_some_iff.mp h
        have := length_of_quotedText? hread
        omega
      · split at h
        · cases h
          have := (List.dropWhile_suffix (l := cs) isWordChar).length_le
          omega
        · cases h

/-! ## Reading -/

namespace Constant

mutual

/-- Reads a literal inside of lists, whose items so far are given, the innermost list first and its
last item first.  Only a list that has no items yet can end here. -/
def readIn (outer : List (List Constant)) (cs : List Char) : Option (Constant × List Char) :=
  match _ : token? cs with
  | some (.word w, rest) =>
      match ofWord? w with
      | some v => readAfter v outer rest
      | none => none
  | some (.text s, rest) => readAfter (cell (.text s)) outer rest
  | some (.opening, rest) => readIn ([] :: outer) rest
  | some (.closing, rest) =>
      match outer with
      | [] :: outer => readAfter (list []) outer rest
      | _ => none
  | _ => none
termination_by cs.length
decreasing_by all_goals exact length_of_token? ‹_›

/-- Reads on after a literal inside of lists. -/
def readAfter (v : Constant) (outer : List (List Constant)) (cs : List Char) :
    Option (Constant × List Char) :=
  match outer with
  | [] => some (v, cs)
  | items :: outer =>
      match _ : token? cs with
      | some (.comma, rest) => readIn ((v :: items) :: outer) rest
      | some (.closing, rest) => readAfter (list (v :: items).reverse) outer rest
      | _ => none
termination_by cs.length
decreasing_by all_goals exact length_of_token? ‹_›

end

/-- Reads one literal, and leaves the text behind it. -/
def read? (cs : List Char) : Option (Constant × List Char) := readIn [] cs

/-! ## One token -/

theorem readIn_word {outer : List (List Constant)} {cs rest : List Char} {w : String}
    {v : Constant} (h : token? cs = some (.word w, rest)) (hw : ofWord? w = some v) :
    readIn outer cs = readAfter v outer rest := by
  rw [readIn]
  split <;> simp_all

theorem readIn_text {outer : List (List Constant)} {cs rest : List Char} {s : String}
    (h : token? cs = some (.text s, rest)) :
    readIn outer cs = readAfter (cell (.text s)) outer rest := by
  rw [readIn]
  split <;> simp_all

theorem readIn_opening {outer : List (List Constant)} {cs rest : List Char}
    (h : token? cs = some (.opening, rest)) : readIn outer cs = readIn ([] :: outer) rest := by
  rw [readIn]
  split <;> simp_all

theorem readIn_closing {outer : List (List Constant)} {cs rest : List Char}
    (h : token? cs = some (.closing, rest)) :
    readIn ([] :: outer) cs = readAfter (list []) outer rest := by
  rw [readIn]
  split <;> simp_all

theorem readAfter_comma {v : Constant} {items : List Constant} {outer : List (List Constant)}
    {cs rest : List Char} (h : token? cs = some (.comma, rest)) :
    readAfter v (items :: outer) cs = readIn ((v :: items) :: outer) rest := by
  rw [readAfter]
  split <;> simp_all

theorem readAfter_closing {v : Constant} {items : List Constant} {outer : List (List Constant)}
    {cs rest : List Char} (h : token? cs = some (.closing, rest)) :
    readAfter v (items :: outer) cs = readAfter (list (v :: items).reverse) outer rest := by
  rw [readAfter]
  split <;> simp_all

/-- A blank before a literal is not seen. -/
theorem readIn_space (outer : List (List Constant)) (cs : List Char) :
    readIn outer (' ' :: cs) = readIn outer cs := by
  rw [readIn, readIn]
  rfl

end Constant

/-! ## Texts behind a literal -/

/-- A literal ends before the text: nothing follows it, or a blank, a comma, a closing parenthesis
or a semicolon. -/
def EndsLiteral (rest : List Char) : Prop := ∀ c ∈ rest.head?, c ∈ [' ', ',', ')', ';']

theorem endsLiteral_cons {c : Char} (hc : c ∈ [' ', ',', ')', ';']) (rest : List Char) :
    EndsLiteral (c :: rest) := by
  rintro d ⟨⟩
  exact hc

theorem EndsLiteral.head?_ne {rest : List Char} (h : EndsLiteral rest) :
    rest.head? ≠ some '\'' := by
  intro hquote
  exact absurd (h '\'' hquote) (by decide)

theorem isWordChar_of_isNumeral {c : Char} (hc : isNumeral c = true) : isWordChar c = true := by
  have hrole : charRole c = .run false := charRole_of_class (by decide) hc
  have hsemicolon : c ≠ ';' := by
    rintro rfl
    exact absurd hc (by decide)
  simp [isWordChar, hrole, hsemicolon]

/-- A word is read as far as its characters go. -/
theorem token?_word {s rest : List Char} (hs : ∀ c ∈ s, isWordChar c = true) (hne : s ≠ [])
    (h : EndsLiteral rest) : token? (s ++ rest) = some (.word (String.ofList s), rest) := by
  obtain ⟨c, s, rfl⟩ := List.exists_cons_of_ne_nil hne
  have hc := hs c List.mem_cons_self
  have hrole : charRole c = .run false := by
    simp only [isWordChar, Bool.and_eq_true, decide_eq_true_eq] at hc
    exact hc.1
  have hs' : ∀ d ∈ s, isWordChar d = true := fun d hd => hs d (List.mem_cons_of_mem c hd)
  have hstop : rest.takeWhile isWordChar = [] ∧ rest.dropWhile isWordChar = rest := by
    cases rest with
    | nil => exact ⟨rfl, rfl⟩
    | cons d rest =>
        have hd : isWordChar d = false := by
          have hmem := h d rfl
          simp only [List.mem_cons, List.not_mem_nil, or_false] at hmem
          rcases hmem with rfl | rfl | rfl | rfl <;> decide
        simp [hd]
  rw [List.cons_append, token?, hrole]
  simp only [hc, if_true]
  rw [List.takeWhile_append_of_pos hs', List.dropWhile_append_of_pos hs', hstop.1, hstop.2,
    List.append_nil]

/-- A text with its quotes doubled is read back up to the quote that closes it. -/
theorem quotedText?_doubleQuotes (s : List Char) {rest : List Char}
    (h : rest.head? ≠ some '\'') :
    quotedText? (doubleQuotes s ++ '\'' :: rest) = some (s, rest) := by
  induction s with
  | nil =>
      -- The closing quote is not taken for a doubled one: no quote follows it.
      rw [doubleQuotes, List.nil_append, quotedText?]
      rintro r rfl
      exact h rfl
  | cons c s ih =>
      by_cases hc : c = '\''
      · subst hc
        rw [doubleQuotes, if_pos rfl, List.cons_append, List.cons_append, quotedText?, ih]
        rfl
      · rw [doubleQuotes, if_neg hc, List.cons_append, quotedText?, ih]
        · rfl
        · rintro r rfl
          exact absurd rfl hc
        · exact hc

theorem token?_quoted (s : String) {rest : List Char} (h : rest.head? ≠ some '\'') :
    token? ((quoted s).toList ++ rest) = some (.text s, rest) := by
  have hrole : charRole '\'' = .quote := by decide
  rw [quoted, String.toList_ofList, List.append_assoc, List.cons_append, token?, hrole,
    List.singleton_append]
  simp only [quotedText?_doubleQuotes _ h, Option.map_some, String.ofList_toList]

/-! ## Literals of values -/

namespace Constant

/-- The text is read as the constant inside of any lists, to its end and no further. -/
def Reads (s : List Char) (v : Constant) : Prop :=
  ∀ outer rest, EndsLiteral rest → readIn outer (s ++ rest) = readAfter v outer rest

/-- The text of a number. -/
theorem reads_number {s : String} {c : Cell} (hs : ∀ c ∈ s.toList, isNumeral c = true)
    (hc : numberOfText? s = some c) : Reads s.toList (cell c) := by
  have hne : s.toList ≠ [] := by
    intro hempty
    have hnone : numberOfText? "" = none := by decide
    rw [String.toList_eq_nil_iff.mp hempty, hnone] at hc
    cases hc
  have hword : ofWord? s = some (cell c) := by
    rw [ofWord?, if_neg, hc, Option.map_some]
    rintro rfl
    exact absurd (hs 'N' (by decide)) (by decide)
  intro outer rest h
  have htoken := token?_word (fun c hc => isWordChar_of_isNumeral (hs c hc)) hne h
  rw [String.ofList_toList] at htoken
  exact readIn_word htoken hword

theorem reads_null : Reads "NULL".toList (cell .null) := by
  have hword : ∀ c ∈ "NULL".toList, isWordChar c = true := List.all_eq_true.mp (by decide)
  intro outer rest h
  exact readIn_word (token?_word hword (by decide) h) rfl

theorem reads_integer (n : Int64) : Reads (toString n).toList (cell (.integer n)) :=
  reads_number (isNumeral_toString n.toInt) (numberOfText?_toString n)

theorem reads_real (x : Double) : Reads x.literal.toList (ofValue (.real x)) := by
  rw [ofValue, Double.literal]
  split
  · rename_i hfinite
    refine reads_number ?_ (Double.numberOfText?_text literalLayout hfinite)
    rw [Double.toList_text]
    exact RealText.isNumeral_chars (x.proper_realText literalLayout)
  · exact reads_null

theorem reads_text (s : String) : Reads (quoted s).toList (cell (.text s)) :=
  fun _ _ h => readIn_text (token?_quoted s h.head?_ne)

/-- Literals with commas between them and a parenthesis behind them end the list around them. -/
theorem readIn_items {v : Value} (vs : List Value)
    (h : ∀ w ∈ v :: vs, Reads w.toSql.toList (ofValue w)) (items : List Constant)
    (outer : List (List Constant)) (rest : List Char) :
    readIn (items :: outer)
        ((", ".intercalate ((v :: vs).map Value.toSql)).toList ++ ')' :: rest)
      = readAfter (list (items.reverse ++ ofValues (v :: vs))) outer rest := by
  -- The items read so far are generalized: every comma adds the literal before it to them.
  induction vs generalizing v items with
  | nil =>
      have hread := h v List.mem_cons_self (items :: outer) (')' :: rest)
        (endsLiteral_cons (by decide) rest)
      simp only [List.map_cons, List.map_nil, String.intercalate_singleton]
      rw [hread, readAfter_closing rfl]
      simp [ofValues]
  | cons w vs ih =>
      have hread := h v List.mem_cons_self (items :: outer)
        (',' :: ' ' :: ((", ".intercalate ((w :: vs).map Value.toSql)).toList ++ ')' :: rest))
        (endsLiteral_cons (by decide) _)
      have hrest := ih (fun a ha => h a (List.mem_cons_of_mem v ha)) (ofValue v :: items)
      have htext : (", ".intercalate ((v :: w :: vs).map Value.toSql)).toList
          = v.toSql.toList
            ++ ',' :: ' ' :: (", ".intercalate ((w :: vs).map Value.toSql)).toList := by
        simp
      rw [htext, List.append_assoc, List.cons_append, List.cons_append, hread,
        readAfter_comma rfl, readIn_space, hrest]
      simp [ofValues]

/-- A list in parentheses. -/
theorem reads_list (vs : List Value) (h : ∀ w ∈ vs, Reads w.toSql.toList (ofValue w)) :
    Reads ("(" ++ Value.joinLiterals vs ++ ")").toList (list (ofValues vs)) := by
  intro outer rest _
  have htext : ("(" ++ Value.joinLiterals vs ++ ")").toList ++ rest
      = '(' :: ((Value.joinLiterals vs).toList ++ ')' :: rest) := by
    simp
  rw [htext, readIn_opening rfl]
  cases vs with
  | nil => exact readIn_closing rfl
  | cons v vs => exact readIn_items vs h [] outer rest

/-- The literal of every value is read as what it denotes. -/
theorem reads_toSql : ∀ v : Value, Reads v.toSql.toList (ofValue v)
  | .integer n => by
      rw [Value.toSql, ofValue]
      exact reads_integer n
  | .real x => by
      rw [Value.toSql]
      exact reads_real x
  | .text s => by
      rw [Value.toSql, ofValue]
      exact reads_text s
  | .boolean b => by
      rw [Value.toSql, ofValue]
      cases b
      · exact reads_integer 0
      · exact reads_integer 1
  | .list items => by
      rw [Value.toSql, Value.literals_eq_map, ofValue]
      exact reads_list items fun w _ => reads_toSql w

/-- The literal of a value and a text that it ends before. -/
theorem read?_append (v : Value) {rest : List Char} (h : EndsLiteral rest) :
    read? (v.toSql.toList ++ rest) = some (ofValue v, rest) := by
  rw [read?, reads_toSql v [] rest h, readAfter]

/-- Values with one literal denote the same. -/
theorem ofValue_eq_of_toSql {v w : Value} (h : v.toSql = w.toSql) : ofValue v = ofValue w := by
  have hnil : EndsLiteral [] := by simp [EndsLiteral]
  have hv := read?_append v hnil
  have hw := read?_append w hnil
  rw [h, hw, Option.some_inj, Prod.mk.injEq] at hv
  exact hv.1.symm

/-- Lists with one text denote the same, item by item. -/
theorem ofValues_eq_of_joinLiterals {vs ws : List Value}
    (h : Value.joinLiterals vs = Value.joinLiterals ws) : ofValues vs = ofValues ws := by
  -- In parentheses the joined literals are the literal of a list.
  have htext : (Value.list vs).toSql = (Value.list ws).toSql := by
    rw [Value.toSql, Value.toSql, Value.literals_eq_map, Value.literals_eq_map,
      ← Value.joinLiterals, h, Value.joinLiterals]
  have hlist := ofValue_eq_of_toSql htext
  rw [ofValue, ofValue] at hlist
  exact list.inj hlist

end Constant

/-- Literals end by themselves: the literal of every value is read to its end and no further, so
that values or lists of values with one text denote the same. -/
theorem Value.literals_end_by_themselves :
    (∀ (v : Value) (rest : List Char), EndsLiteral rest →
      Constant.read? (v.toSql.toList ++ rest) = some (Constant.ofValue v, rest)) ∧
    (∀ v w : Value, v.toSql = w.toSql → Constant.ofValue v = Constant.ofValue w) ∧
    ∀ vs ws : List Value, joinLiterals vs = joinLiterals ws →
      Constant.ofValues vs = Constant.ofValues ws := by
  refine ⟨fun v rest h => ?_, fun v w h => ?_, fun vs ws h => ?_⟩
  · exact Constant.read?_append v h
  · exact Constant.ofValue_eq_of_toSql h
  · exact Constant.ofValues_eq_of_joinLiterals h

/-- A list of a text with a quote, an empty list, a boolean and a real that is not a number, before
a semicolon, and a boolean that is written like an integer. -/
theorem Value.literals_end_by_themselves_nested :
    Constant.read? "('it''s', (), 1, NULL); x".toList
      = some (.list [.cell (.text "it's"), .list [], .cell (.integer 1), .cell .null],
        "; x".toList) ∧
    Constant.ofValue (.boolean true) = Constant.ofValue (.integer 1) ∧
    Constant.ofValues [.text "a", .boolean true] = Constant.ofValues [.text "a", .integer 1] := by
  obtain ⟨hread, hvalue, hlist⟩ := literals_end_by_themselves
  have hends : EndsLiteral "; x".toList := endsLiteral_cons (by decide) [' ', 'x']
  refine ⟨?_, hvalue _ _ (by decide), hlist _ _ (by decide)⟩
  exact hread (.list [.text "it's", .list [], .boolean true, .real ⟨0x7FF8000000000000⟩]) _ hends

end SqlStore
