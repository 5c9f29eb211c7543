/-
# What the text of one condition says

A clause is what a reader of the text learns from one condition: a column that is or is not `NULL`,
compares with a literal or is among several, or, when a list was empty, two numbers that are equal
or not.

* `Clause.ofCondition` : what the text of a condition says;
* `clause?` : reads one clause and leaves the tokens behind it;
* `Condition.spells_toSql` : the text of every condition on a named column is read as what it says.
-/
import SqlStore.Condition.Predicate
import SqlStore.Proofs.Text.Literal
import SqlStore.Store.Identifier

namespace SqlStore

/-! ## Clauses -/

/-- A column as a text names it, after its table if that is told. -/
structure ColumnName where
  table : Option String
  name : String
deriving DecidableEq, Inhabited

/-- What the text of one condition says. -/
inductive Clause
  /-- Two literals are equal. -/
  | constant (left right : Literal)
  | isNull (column : ColumnName) (negated : Bool)
  | compare (op : Operator) (column : ColumnName) (operand : Literal)
  | member (column : ColumnName) (items : List Literal) (negated : Bool)
deriving Inhabited

namespace Clause

/-- What a membership test says; a list without elements leaves a constant. -/
def ofMembership (column : ColumnName) (negated : Bool) : List Value → Clause
  | [] => constant (.integer (if negated then 1 else 0)) (.integer 1)
  | items => member column (Literal.ofValues items) negated

/-- What the text of a condition says.  A membership test without a list has no text. -/
def ofCondition (c : Condition) : Clause :=
  let column : ColumnName := ⟨c.table, c.key⟩
  match c.operation, c.value with
  | .equal, none => isNull column false
  | .notEqual, none => isNull column true
  | .isNull, _ => isNull column false
  | .inList, some (.list items) => ofMembership column false items
  | .notInList, some (.list items) => ofMembership column true items
  | op, operand => compare op column (Literal.ofOption operand)

end Clause

/-! ## Reading -/

/-- The column that a word names: an identifier, or two with a point between them. -/
def ColumnName.ofWord? (w : String) : Option ColumnName :=
  let first := String.ofList (w.toList.takeWhile (· != '.'))
  match w.toList.dropWhile (· != '.') with
  | [] => if isIdentifier w then some ⟨none, w⟩ else none
  | _ :: rest =>
      if isIdentifier first && isIdentifier (String.ofList rest) then
        some ⟨some first, String.ofList rest⟩
      else none

/-- The comparison that an operator stands for. -/
def comparison? (symbol : String) : Option Operator :=
  match symbol with
  | "=" => some .equal
  | "!=" => some .notEqual
  | ">" => some (.greaterThan false)
  | ">=" => some (.greaterThan true)
  | "<" => some (.lessThan false)
  | "<=" => some (.lessThan true)
  | _ => none

/-- Reads the operand of a comparison. -/
def operand? (op : Operator) (column : ColumnName) (ts : List Token) :
    Option (Clause × List Token) :=
  (literal? ts).map fun (v, rest) => (.compare op column v, rest)

/-- Reads the list of a membership test. -/
def items? (column : ColumnName) (negated : Bool) (ts : List Token) :
    Option (Clause × List Token) :=
  match literal? ts with
  | some (.list items, rest) => some (.member column items negated, rest)
  | _ => none

/-- Reads what is said of a column. -/
def saidOf? (column : ColumnName) : List Token → Option (Clause × List Token)
  | .operator symbol :: rest => (comparison? symbol).bind fun op => operand? op column rest
  | .word "LIKE" :: rest => operand? .like column rest
  | .word "IS" :: .word "NULL" :: rest => some (.isNull column false, rest)
  | .word "IS" :: .word "NOT" :: .word "NULL" :: rest => some (.isNull column true, rest)
  | .word "IN" :: rest => items? column false rest
  | .word "NOT" :: .word "IN" :: rest => items? column true rest
  | _ => none

/-- Reads what a literal is equal to. -/
def equal? (left : Literal) : List Token → Option (Clause × List Token)
  | .operator "=" :: rest => (literal? rest).map fun (right, rest) => (.constant left right, rest)
  | _ => none

/-- Reads one clause, and leaves the tokens behind it. -/
def clause? : List Token → Option (Clause × List Token)
  | .word w :: rest =>
      match ColumnName.ofWord? w with
      | some column => saidOf? column rest
      | none => (Literal.ofWord? w).bind fun left => equal? left rest
  | _ => none

/-! ## Names -/

/-- The column and its table are named by identifiers. -/
def Condition.IsNamed (c : Condition) : Prop :=
  isIdentifier c.key = true ∧ ∀ table ∈ c.table, isIdentifier table = true

instance (c : Condition) : Decidable c.IsNamed := inferInstanceAs (Decidable (_ ∧ _))

/-- The characters of an identifier. -/
theorem continues_of_isIdentifier {name : String} (h : isIdentifier name = true) :
    ∀ c ∈ name.toList, continuesIdentifier c = true := by
  rw [isIdentifier] at h
  split at h
  · cases h
  · rename_i c rest hname
    simp only [Bool.and_eq_true] at h
    obtain ⟨⟨hc, hrest⟩, -⟩ := h
    rw [hname]
    intro d hd
    rcases List.mem_cons.mp hd with rfl | hd
    · rw [continuesIdentifier, hc]
      rfl
    · exact List.all_eq_true.mp hrest d hd

/-- An identifier has a first character. -/
theorem ne_nil_of_isIdentifier {name : String} (h : isIdentifier name = true) :
    name.toList ≠ [] := by
  intro hnil
  rw [isIdentifier, hnil] at h
  cases h

/-- An identifier is a run of word characters. -/
theorem isRun_of_isIdentifier {name : String} (h : isIdentifier name = true) :
    IsRun false name.toList :=
  fun c hc => charRole_of_class (by decide) (continues_of_isIdentifier h c hc)

/-- An identifier has no point. -/
theorem ne_point_of_isIdentifier {name : String} (h : isIdentifier name = true) :
    ∀ c ∈ name.toList, (c != '.') = true := by
  intro c hc
  rw [bne_iff_ne]
  rintro rfl
  exact absurd (continues_of_isIdentifier h '.' hc) (by decide)

/-- The first point of two names with a point between them is that one. -/
theorem span_qualified {table : String} (h : isIdentifier table = true) (name : String) :
    (table ++ "." ++ name).toList.takeWhile (· != '.') = table.toList ∧
      (table ++ "." ++ name).toList.dropWhile (· != '.') = '.' :: name.toList := by
  have hpoint := ne_point_of_isIdentifier h
  have hchars : (table ++ "." ++ name).toList = table.toList ++ '.' :: name.toList := by
    simp
  rw [hchars, List.takeWhile_append_of_pos hpoint, List.dropWhile_append_of_pos hpoint]
  simp

/-- An identifier names the column of that name. -/
theorem ColumnName.ofWord?_identifier {name : String} (h : isIdentifier name = true) :
    ColumnName.ofWord? name = some ⟨none, name⟩ := by
  have hdrop : name.toList.dropWhile (· != '.') = [] := by
    rw [← List.append_nil name.toList, List.dropWhile_append_of_pos (ne_point_of_isIdentifier h)]
    rfl
  rw [ofWord?, hdrop]
  simp only [h, if_true]

/-- Two identifiers with a point between them name a column of a table. -/
theorem ColumnName.ofWord?_qualified {table name : String} (ht : isIdentifier table = true)
    (hn : isIdentifier name = true) :
    ColumnName.ofWord? (table ++ "." ++ name) = some ⟨some table, name⟩ := by
  obtain ⟨htake, hdrop⟩ := span_qualified ht name
  rw [ofWord?, htake, hdrop]
  simp [ht, hn]

/-- The column of a condition is one word, which names it. -/
theorem Condition.IsNamed.column {c : Condition} (h : c.IsNamed) :
    IsRun false c.column.toList ∧ c.column.toList ≠ [] ∧
      ColumnName.ofWord? c.column = some ⟨c.table, c.key⟩ := by
  obtain ⟨table, key, op, value⟩ := c
  obtain ⟨hkey, htable⟩ := h
  have hrun := isRun_of_isIdentifier hkey
  cases table with
  | none => exact ⟨hrun, ne_nil_of_isIdentifier hkey, ColumnName.ofWord?_identifier hkey⟩
  | some table =>
      have ht : isIdentifier table = true := htable table rfl
      have hpoint : IsRun false ".".toList := by decide
      refine ⟨?_, ?_, ColumnName.ofWord?_qualified ht hkey⟩
      · simp only [Condition.column, String.toList_append]
        exact ((isRun_of_isIdentifier ht).append hpoint).append hrun
      · simp [Condition.column]

/-! ## The text of a condition -/

/-- The text is one clause: it is read to its end, and no further. -/
def SpellsClause (s : List Char) (c : Clause) : Prop :=
  ∃ ts : List Token, Lexes s ts ∧ ∀ rest, clause? (ts ++ rest) = some (c, rest)

/-- A literal is read as itself. -/
theorem literal?_append {ts : List Token} {v : Literal}
    (h : ∀ outer rest, literalIn outer (ts ++ rest) = literalAfter v outer rest)
    (rest : List Token) : literal? (ts ++ rest) = some (v, rest) := by
  rw [literal?, h, literalAfter]

section

variable {c : Condition}

/-- A column and what is said of it. -/
theorem spellsClause_column (h : c.IsNamed) {said : List Char} {ts : List Token} {clause : Clause}
    (hlex : Lexes said ts)
    (hread : ∀ rest, saidOf? ⟨c.table, c.key⟩ (ts ++ rest) = some (clause, rest)) :
    SpellsClause (c.column.toList ++ ' ' :: said) clause := by
  obtain ⟨hrun, hne, hword⟩ := h.column
  refine ⟨.word c.column :: ts, (lexes_word hrun hne).spaced hlex, fun rest => ?_⟩
  rw [List.cons_append, clause?, hword]
  exact hread rest

/-- A column compared with a literal. -/
theorem spellsClause_compare (h : c.IsNamed) {symbol : String} {op : Operator}
    (hrun : IsRun true symbol.toList) (hne : symbol.toList ≠ [])
    (hop : comparison? symbol = some op) {s : List Char} {v : Literal} (hv : SpellsLiteral s v) :
    SpellsClause (c.column.toList ++ ' ' :: (symbol.toList ++ ' ' :: s))
      (.compare op ⟨c.table, c.key⟩ v) := by
  obtain ⟨ts, hlex, hread⟩ := hv
  refine spellsClause_column h ((lexes_operator hrun hne).spaced hlex) fun rest => ?_
  rw [List.singleton_append, List.cons_append, saidOf?, hop, Option.bind_some, operand?,
    literal?_append hread]
  rfl

/-- A column that is or is not `NULL`. -/
theorem spellsClause_isNull (h : c.IsNamed) :
    SpellsClause (c.column ++ " IS NULL").toList (.isNull ⟨c.table, c.key⟩ false) ∧
      SpellsClause (c.column ++ " IS NOT NULL").toList (.isNull ⟨c.table, c.key⟩ true) := by
  have his : Lexes "IS".toList [.word "IS"] := lexes_word (by decide) (by simp)
  have hnot : Lexes "NOT".toList [.word "NOT"] :=
    lexes_word (by decide) (by simp)
  have hnull : Lexes "NULL".toList [.word "NULL"] :=
    lexes_word (by decide) (by simp)
  constructor
  · rw [String.toList_append]
    exact spellsClause_column h (his.spaced hnull) fun rest => rfl
  · rw [String.toList_append]
    exact spellsClause_column h (his.spaced (hnot.spaced hnull)) fun rest => rfl

/-- A column compared with a literal by a word. -/
theorem spellsClause_like (h : c.IsNamed) {s : List Char} {v : Literal} (hv : SpellsLiteral s v) :
    SpellsClause (c.column.toList ++ ' ' :: ("LIKE".toList ++ ' ' :: s))
      (.compare .like ⟨c.table, c.key⟩ v) := by
  have hlike : Lexes "LIKE".toList [.word "LIKE"] :=
    lexes_word (by decide) (by simp)
  obtain ⟨ts, hlex, hread⟩ := hv
  refine spellsClause_column h (hlike.spaced hlex) fun rest => ?_
  rw [List.singleton_append, List.cons_append, saidOf?, operand?, literal?_append hread]
  rfl

/-- A column among the elements of a list. -/
theorem spellsClause_member (h : c.IsNamed) {keyword : List Char} {ts : List Token}
    {negated : Bool} (hkeyword : Lexes keyword ts)
    (hread : ∀ rest, saidOf? ⟨c.table, c.key⟩ (ts ++ rest) = items? ⟨c.table, c.key⟩ negated rest)
    (items : List Value) :
    SpellsClause (c.column.toList ++ ' ' :: (keyword ++
        ' ' :: ("(" ++ Value.joinLiterals items ++ ")").toList))
      (.member ⟨c.table, c.key⟩ (Literal.ofValues items) negated) := by
  obtain ⟨us, hlex, hitems⟩ := spellsLiteral_list items fun v _ => v.spells_toSql
  refine spellsClause_column h (hkeyword.spaced hlex) fun rest => ?_
  rw [List.append_assoc, hread, items?, literal?_append hitems]

end

/-- Two literals that are said to be equal. -/
theorem spellsClause_constant {w : String} {s : List Char} {left right : Literal}
    (hrun : IsRun false w.toList) (hne : w.toList ≠ []) (hname : ColumnName.ofWord? w = none)
    (hleft : Literal.ofWord? w = some left) (hright : SpellsLiteral s right) :
    SpellsClause (w.toList ++ ' ' :: ("=".toList ++ ' ' :: s)) (.constant left right) := by
  have heq : Lexes "=".toList [.operator "="] :=
    lexes_operator (by decide) (by simp)
  obtain ⟨ts, hlex, hread⟩ := hright
  refine ⟨_, (lexes_word hrun hne).spaced (heq.spaced hlex), fun rest => ?_⟩
  rw [List.singleton_append, List.singleton_append, List.cons_append, List.cons_append, clause?,
    hname, hleft]
  show (literal? (ts ++ rest)).map _ = _
  rw [literal?_append hread]
  rfl

/-- The literal of a value that may be absent is read as what it says. -/
theorem spellsLiteral_option (v : Option Value) :
    SpellsLiteral (Value.literal v).toList (Literal.ofOption v) := by
  cases v with
  | none => exact spellsLiteral_null
  | some v => exact v.spells_toSql

/-- An operand that is accepted as a list is that list. -/
theorem eq_list_of_listOperand {operand : Option Value} {items : List Value}
    (h : listOperand operand = .ok items) : operand = some (.list items) := by
  rw [listOperand.eq_def] at h
  split at h
  · cases h
    rfl
  · split at h
    · cases h
    · cases h
      rfl
  · cases h

/-- The text of a membership test. -/
theorem spellsClause_membership {c : Condition} (h : c.IsNamed) (negated : Bool) {text : String}
    (ht : (listOperand c.value).map (membership c.column (if negated then "NOT IN" else "IN")
      (if negated then "1 = 1" else "0 = 1")) = .ok text) :
    ∃ items, c.value = some (.list items) ∧
      SpellsClause text.toList (Clause.ofMembership ⟨c.table, c.key⟩ negated items) := by
  have hone : SpellsLiteral "1".toList (.integer 1) := spellsLiteral_integer 1
  have hin : Lexes "IN".toList [.word "IN"] := lexes_word (by decide) (by simp)
  have hnot : Lexes "NOT".toList [.word "NOT"] :=
    lexes_word (by decide) (by simp)
  cases hitems : listOperand c.value with
  | error e =>
      rw [hitems] at ht
      cases ht
  | ok items =>
      rw [hitems] at ht
      cases ht
      refine ⟨items, eq_list_of_listOperand hitems, ?_⟩
      cases items with
      | nil =>
          cases negated with
          | false =>
              have hleft : Literal.ofWord? "0" = some (.integer 0) := number?_toString 0
              simpa [membership, Clause.ofMembership] using spellsClause_constant
                (by decide) (by simp) (by decide) hleft hone
          | true =>
              have hleft : Literal.ofWord? "1" = some (.integer 1) := number?_toString 1
              simpa [membership, Clause.ofMembership] using spellsClause_constant
                (by decide) (by simp) (by decide) hleft hone
      | cons v vs =>
          rw [Clause.ofMembership]
          · cases negated with
            | false => simpa [membership] using spellsClause_member h hin (fun _ => rfl) (v :: vs)
            | true =>
                simpa [membership] using
                  spellsClause_member h (hnot.spaced hin) (fun _ => rfl) (v :: vs)
          · simp

/-- The text of a condition on a named column is read as what it says. -/
theorem Condition.spells_toSql {c : Condition} (h : c.IsNamed) {text : String}
    (ht : c.toSql = .ok text) : SpellsClause text.toList (Clause.ofCondition c) := by
  have hliteral := spellsLiteral_option c.value
  have hcompare {symbol : String} {op : Operator} (hrun : IsRun true symbol.toList)
      (hne : symbol.toList ≠ []) (hop : comparison? symbol = some op) :
      SpellsClause (c.column ++ " " ++ symbol ++ " " ++ Value.literal c.value).toList
        (.compare op ⟨c.table, c.key⟩ (Literal.ofOption c.value)) := by
    simpa using spellsClause_compare h hrun hne hop hliteral
  have hlike : SpellsClause (c.column ++ " " ++ "LIKE" ++ " " ++ Value.literal c.value).toList
      (.compare .like ⟨c.table, c.key⟩ (Literal.ofOption c.value)) := by
    simpa using spellsClause_like h hliteral
  have hmember (negated : Bool) := @spellsClause_membership c h negated text
  obtain ⟨table, key, op, value⟩ := c
  cases op with
  | equal =>
      cases value with
      | none => cases ht; exact (spellsClause_isNull h).1
      | some v => cases ht; exact hcompare (by decide) (by simp) rfl
  | notEqual =>
      cases value with
      | none => cases ht; exact (spellsClause_isNull h).2
      | some v => cases ht; exact hcompare (by decide) (by simp) rfl
  | greaterThan orEqual =>
      cases ht
      cases orEqual with
      | false => exact hcompare (by decide) (by simp) rfl
      | true => exact hcompare (by decide) (by simp) rfl
  | lessThan orEqual =>
      cases ht
      cases orEqual with
      | false => exact hcompare (by decide) (by simp) rfl
      | true => exact hcompare (by decide) (by simp) rfl
  | inList =>
      obtain ⟨items, hvalue, hs⟩ := hmember false ht
      cases hvalue
      exact hs
  | notInList =>
      obtain ⟨items, hvalue, hs⟩ := hmember true ht
      cases hvalue
      exact hs
  | isNull => cases ht; exact (spellsClause_isNull h).1
  | like => cases ht; exact hlike

end SqlStore
