/-
# The parts of a table's declaration

A `CREATE TABLE` statement shows one list: a part for each column and, where several columns are
keys, one part more that names these.  A part is read back token by token as what was declared, so
that a default can hold any text, and with it commas, parentheses and words of the language.

* `declaration?` : reads the part of a column;
* `ColumnDecl.spells_toSql` : the part of every column is read as what the column declares;
* `Keyless` : parts in which no word makes a key;
* `Statement.createTable_parts` : the list of a table, its columns and its key.
-/
import SqlStore.Proofs.Condition.Clause
import SqlStore.Proofs.Statement.Listing

namespace SqlStore

/-! ## Reading a part -/

/-- What a column's part says of the column besides its name and its kind. -/
inductive Constraint
  | primaryKey (autoIncrement : Bool)
  | notNull
  | unique
  | default (value : Literal)
deriving Inhabited

/-- What an attribute says. -/
def Constraint.ofAttribute : ColumnAttribute → Constraint
  | .primaryKey autoIncrement => primaryKey autoIncrement
  | .notNull => notNull
  | .unique => unique
  | .default value => default (.ofValue value)

/-- A column, as its part declares it. -/
structure DeclaredColumn where
  name : String
  kind : DataKind
  constraints : List Constraint
deriving Inhabited

/-- Reads a kind of data. -/
def kind? : List Token → Option (DataKind × List Token)
  | .word "INTEGER" :: rest => some (.integer, rest)
  | .word "TEXT" :: rest => some (.text, rest)
  | .word "REAL" :: rest => some (.real, rest)
  | .word "CHAR" :: .opening :: .word size :: .closing :: rest =>
      match number? size.toList with
      | some (.integer n) => some (.char (UInt64.ofNat n.toNat), rest)
      | _ => none
  | _ => none

/-- Reads one constraint. -/
def constraint? : List Token → Option (Constraint × List Token)
  | .word "PRIMARY" :: .word "KEY" :: .word "AUTOINCREMENT" :: rest => some (.primaryKey true, rest)
  | .word "PRIMARY" :: .word "KEY" :: rest => some (.primaryKey false, rest)
  | .word "NOT" :: .word "NULL" :: rest => some (.notNull, rest)
  | .word "UNIQUE" :: rest => some (.unique, rest)
  | .word "DEFAULT" :: rest => (literal? rest).map fun (v, rest) => (.default v, rest)
  | _ => none

/-- Reads constraints to the end. -/
def constraints? (ts : List Token) : Option (List Constraint) :=
  match ts with
  | [] => some []
  | t :: ts =>
      match constraint? (t :: ts) with
      | some (c, rest) =>
          if rest.length ≤ ts.length then (constraints? rest).map (c :: ·) else none
      | none => none
termination_by ts.length

/-- Reads the part of a column. -/
def declaration? : List Token → Option DeclaredColumn
  | .word name :: rest => do
      let (kind, rest) ← kind? rest
      let constraints ← constraints? rest
      if isIdentifier name then some ⟨name, kind, constraints⟩ else none
  | _ => none

/-! ## Words that make a key -/

/-- The words that tell a key, the first of each phrase and the one that only keys have. -/
def keyWords : List String := ["PRIMARY", "AUTOINCREMENT"]

/-- A word that makes a column a key, in any case of its letters. -/
def Token.makesKey : Token → Bool
  | word w => keyWords.any (sameName w)
  | _ => false

/-- No word makes a key. -/
def Keyless (ts : List Token) : Prop := ∀ t ∈ ts, t.makesKey = false

instance (ts : List Token) : Decidable (Keyless ts) :=
  inferInstanceAs (Decidable (∀ t ∈ ts, t.makesKey = false))

theorem Keyless.append {ts us : List Token} (hts : Keyless ts) (hus : Keyless us) :
    Keyless (ts ++ us) :=
  fun t ht => (List.mem_append.mp ht).elim (hts t) (hus t)

/-- A word makes no key if it is none of the words that do. -/
theorem makesKey_eq_false {w : String} (h : ∀ key ∈ keyWords, sameName w key = false) :
    (Token.word w).makesKey = false := by
  rw [Token.makesKey, List.any_eq_false]
  intro key hkey
  rw [h key hkey]
  exact Bool.false_ne_true

/-- The words that make keys are reserved, and a name is not. -/
theorem makesKey_identifier {name : String} (h : isIdentifier name = true) :
    (Token.word name).makesKey = false := by
  have hname : reservedWords.contains name.toLower = false := by
    rw [isIdentifier] at h
    split at h
    · cases h
    · simpa using (Bool.and_eq_true_iff.mp h).2
  have hreserved : ∀ key ∈ keyWords, reservedWords.contains key.toLower = true := by
    decide +kernel
  refine makesKey_eq_false fun key hkey => Bool.eq_false_iff.mpr fun hsame => ?_
  have heq : name.toLower = key.toLower := beq_iff_eq.mp hsame
  rw [heq, hreserved key hkey] at hname
  cases hname

/-- A number begins with its sign or with a digit. -/
theorem exists_head_of_number? {s : List Char} {v : Literal} (h : number? s = some v) :
    ∃ c ∈ s.head?, c = '-' ∨ c.isDigit = true := by
  cases s with
  | nil => cases h
  | cons c s =>
      refine ⟨c, rfl, ?_⟩
      by_cases hc : c = '-'
      · exact .inl hc
      · refine .inr (Bool.of_not_eq_false fun hdigit => ?_)
        rw [number?, unsigned?] at h
        · simp [hdigit] at h
        · rintro _ ⟨⟩
          exact hc rfl

/-- A number makes no key: the words that do begin with letters. -/
theorem makesKey_number {w : String} {v : Literal} (h : number? w.toList = some v) :
    (Token.word w).makesKey = false := by
  obtain ⟨c, hc, hclass⟩ := exists_head_of_number? h
  have hlower : c.toLower = c := by
    rcases hclass with rfl | hdigit
    · rfl
    · have hupper : ¬ (c.val ≥ 'A'.val ∧ c.val ≤ 'Z'.val) := by
        simp only [Char.isDigit] at hdigit
        grind
      exact dif_neg hupper
  have hhead : w.toLower.toList.head? = some c := by
    show (w.map Char.toLower).toList.head? = some c
    rw [String.toList_map, List.head?_map, hc, Option.map_some, hlower]
  have hletters : ∀ key ∈ keyWords,
      key.toLower.toList.head?.all (fun c => c != '-' && !c.isDigit) = true := by
    decide +kernel
  refine makesKey_eq_false fun key hkey => Bool.eq_false_iff.mpr fun hsame => ?_
  have heq : w.toLower = key.toLower := beq_iff_eq.mp hsame
  have hletter := hletters key hkey
  rw [← heq, hhead, Option.all_some] at hletter
  rcases hclass with rfl | hdigit
  · cases hletter
  · simp [hdigit] at hletter

theorem makesKey_literal {w : String} {v : Literal} (h : Literal.ofWord? w = some v) :
    (Token.word w).makesKey = false := by
  rw [Literal.ofWord?] at h
  split at h
  · rename_i hnull
    rw [hnull]
    decide +kernel
  · exact makesKey_number h

/-- Every word in front of the rest stands for a literal. -/
def SpelledBefore (rest ts : List Token) : Prop :=
  ∀ w, .word w ∈ ts → .word w ∈ rest ∨ (Literal.ofWord? w).isSome

namespace SpelledBefore

variable {rest ts : List Token}

theorem self (rest : List Token) : SpelledBefore rest rest := fun _ hw => .inl hw

theorem word {w : String} {v : Literal} (hw : Literal.ofWord? w = some v)
    (h : SpelledBefore rest ts) : SpelledBefore rest (.word w :: ts) := by
  intro x hx
  rcases List.mem_cons.mp hx with hx | hx
  · cases hx
    exact .inr (by rw [hw]; rfl)
  · exact h x hx

theorem cons {t : Token} (ht : ∀ w, t ≠ .word w) (h : SpelledBefore rest ts) :
    SpelledBefore rest (t :: ts) := by
  intro x hx
  rcases List.mem_cons.mp hx with hx | hx
  · exact absurd hx.symm (ht x)
  · exact h x hx

end SpelledBefore

/-- What is read of a literal are words that stand for literals, texts and marks. -/
theorem spelledBefore_of_literal (ts : List Token) :
    (∀ outer v rest, literalIn outer ts = some (v, rest) → SpelledBefore rest ts) ∧
    (∀ u outer v rest, literalAfter u outer ts = some (v, rest) → SpelledBefore rest ts) := by
  -- Both readers take one token at each step and go on with either of them.
  induction ts with
  | nil =>
      refine ⟨fun outer v rest h => ?_, fun u outer v rest h => ?_⟩
      · cases outer with
        | nil => cases h
        | cons items outer => cases items <;> cases h
      · cases outer with
        | nil =>
            cases h
            exact .self []
        | cons items outer => cases h
  | cons t ts ih =>
      obtain ⟨ihIn, ihAfter⟩ := ih
      refine ⟨fun outer v rest h => ?_, fun u outer v rest h => ?_⟩
      · unfold literalIn at h
        split at h
        · rename_i heq
          cases heq
          split at h
          · rename_i hw
            exact .word hw (ihAfter _ _ _ _ h)
          · cases h
        · rename_i heq
          cases heq
          exact .cons (by simp) (ihAfter _ _ _ _ h)
        · rename_i heq
          cases heq
          exact .cons (by simp) (ihIn _ _ _ h)
        · rename_i heq
          cases heq
          exact .cons (by simp) (ihAfter _ _ _ _ h)
        · cases h
      · unfold literalAfter at h
        split at h
        · cases h
          exact .self _
        · rename_i heq
          cases heq
          exact .cons (by simp) (ihIn _ _ _ h)
        · rename_i heq
          cases heq
          exact .cons (by simp) (ihAfter _ _ _ _ h)
        · cases h

/-- No word of a literal makes a key. -/
theorem keyless_of_literal {ts : List Token} {v : Literal}
    (h : ∀ outer rest, literalIn outer (ts ++ rest) = literalAfter v outer rest) : Keyless ts := by
  have hread := h [] []
  rw [List.append_nil, literalAfter] at hread
  have hwords := (spelledBefore_of_literal ts).1 _ _ _ hread
  intro t ht
  cases t with
  | word w =>
      rcases hwords w ht with hw | hw
      · cases hw
      · obtain ⟨u, hu⟩ := Option.isSome_iff_exists.mp hw
        exact makesKey_literal hu
  | operator s => rfl
  | opening => rfl
  | closing => rfl
  | comma => rfl
  | text s => rfl

/-! ## The text of a column -/

/-- The text of a kind is read as the kind. -/
theorem DataKind.spells_toSql (kind : DataKind) :
    ∃ ts, Lexes kind.toSql.toList ts ∧ Keyless ts ∧
      ∀ rest, kind? (ts ++ rest) = some (kind, rest) := by
  cases kind with
  | integer =>
      exact ⟨[.word "INTEGER"], lexes_word (by decide) (by decide), by decide +kernel,
        fun rest => rfl⟩
  | text =>
      exact ⟨[.word "TEXT"], lexes_word (by decide) (by decide), by decide +kernel, fun rest => rfl⟩
  | real =>
      exact ⟨[.word "REAL"], lexes_word (by decide) (by decide), by decide +kernel, fun rest => rfl⟩
  | char size =>
      have hnumber : number? (toString size).toList = some (.integer size.toNat) :=
        number?_toString size.toNat
      have hchar : Lexes "CHAR".toList [.word "CHAR"] := lexes_word (by decide) (by decide)
      have hsize : Lexes (toString size).toList [.word (toString size)] :=
        lexes_word (isRun_toString size.toNat) (toList_toString_ne_nil size.toNat)
      have hclosing : Lexes [')'] [.closing] := .mark (t := .closing) rfl .nil
      have hparens := Lexes.mark (c := '(') (t := .opening) rfl (hsize.append hclosing (by simp))
      refine ⟨[.word "CHAR", .opening, .word (toString size), .closing], ?_, ?_, fun rest => ?_⟩
      · have hlex := hchar.append hparens (apart_cons_of_mark (t := .opening) rfl _)
        rw [DataKind.toSql]
        simpa using hlex
      · have hword : Keyless [.word "CHAR", .opening] := by decide +kernel
        exact hword.append (List.forall_mem_cons.mpr ⟨makesKey_number hnumber, by decide⟩)
      · simp only [List.cons_append, List.nil_append, kind?, hnumber, Int.toNat_natCast,
          UInt64.ofNat_toNat]

/-- The text of a kind is part of one item, with its parentheses. -/
theorem DataKind.passes_toSql (kind : DataKind) : Passes 0 0 kind.toSql := by
  cases kind with
  | integer => exact Unmarked.passes (by decide) 0
  | text => exact Unmarked.passes (by decide) 0
  | real => exact Unmarked.passes (by decide) 0
  | char size =>
      have hchar : Unmarked "CHAR".toList := by decide
      have hsize : Plain 0 0 (toString size).toList := (digits_toString size.toNat).plain 0
      have htext : (DataKind.char size).toSql = "CHAR" ++ ("(" ++ toString size ++ ")") :=
        String.toList_inj.mp (by simp [DataKind.toSql])
      rw [htext]
      exact (hchar.passes 0).append hsize.redacts.passes_parens (.inl hchar.quote_not_mem)

namespace ColumnAttribute

/-- The text of an attribute that is shown. -/
def text : ColumnAttribute → String
  | primaryKey autoIncrement =>
      if autoIncrement then "PRIMARY KEY AUTOINCREMENT" else "PRIMARY KEY"
  | notNull => "NOT NULL"
  | unique => "UNIQUE"
  | default value => "DEFAULT " ++ value.toSql

/-- Only a key can be left out. -/
theorem toSql?_eq (inlineKey : Bool) (a : ColumnAttribute) :
    a.toSql? inlineKey = if inlineKey || !a.isPrimaryKey then some a.text else none := by
  cases a <;> cases inlineKey <;> rfl

/-- The text of an attribute is read as what the attribute says, if what follows does not go on
with it. -/
theorem spells_text (a : ColumnAttribute) :
    ∃ t ts, Lexes a.text.toList (t :: ts) ∧ (a.isPrimaryKey = false → Keyless (t :: ts)) ∧
      t ≠ .word "AUTOINCREMENT" ∧
      ∀ rest : List Token, rest.head? ≠ some (.word "AUTOINCREMENT") →
        constraint? (t :: (ts ++ rest)) = some (.ofAttribute a, rest) := by
  cases a with
  | primaryKey autoIncrement =>
      cases autoIncrement with
      | true =>
          exact ⟨_, _, lexes_keywords ["PRIMARY", "KEY", "AUTOINCREMENT"] (by decide),
            fun h => absurd h (by decide), by decide, fun rest _ => rfl⟩
      | false =>
          refine ⟨_, _, lexes_keywords ["PRIMARY", "KEY"] (by decide),
            fun h => absurd h (by decide), by decide, fun rest hrest => ?_⟩
          show constraint? (.word "PRIMARY" :: .word "KEY" :: rest) = _
          rw [constraint?]
          · rfl
          · rintro rest' rfl
            exact hrest rfl
  | notNull =>
      exact ⟨_, _, lexes_keywords ["NOT", "NULL"] (by decide), fun _ => by decide +kernel,
        by decide, fun rest _ => rfl⟩
  | unique =>
      exact ⟨_, _, lexes_keywords ["UNIQUE"] (by decide), fun _ => by decide +kernel,
        by decide, fun rest _ => rfl⟩
  | default value =>
      obtain ⟨ts, hlex, hread⟩ := value.spells_toSql
      have hdefault : Lexes "DEFAULT".toList [.word "DEFAULT"] :=
        lexes_word (by decide) (by decide)
      refine ⟨.word "DEFAULT", ts, ?_, fun _ => ?_, by decide, fun rest _ => ?_⟩
      · rw [text, String.toList_append]
        exact hdefault.spaced hlex
      · have hword : Keyless [.word "DEFAULT"] := by decide +kernel
        exact hword.append (keyless_of_literal hread)
      · rw [constraint?, literal?_append hread]
        rfl

/-- The text of an attribute is part of one item, whatever the default is. -/
theorem passes_text (a : ColumnAttribute) : Passes 0 0 a.text := by
  cases a with
  | primaryKey autoIncrement => cases autoIncrement <;> exact Unmarked.passes (by decide) 0
  | notNull => exact Unmarked.passes (by decide) 0
  | unique => exact Unmarked.passes (by decide) 0
  | default value =>
      have hdefault : Unmarked "DEFAULT ".toList := by decide
      exact (hdefault.passes 0).append value.item_toSql.passes (.inl hdefault.quote_not_mem)

/-- The texts of attributes are read as what the attributes say. -/
theorem exists_tokens (as : List ColumnAttribute) :
    ∃ tss, List.Forall₂ (fun s ts => Lexes s.toList ts) (as.map text) tss ∧
      (as.all (!·.isPrimaryKey) = true → Keyless tss.flatten) ∧
      tss.flatten.head? ≠ some (.word "AUTOINCREMENT") ∧
      constraints? tss.flatten = some (as.map .ofAttribute) := by
  -- No attribute begins with `AUTOINCREMENT`, so that no key before it is read on into it.
  induction as with
  | nil =>
      refine ⟨[], .nil, fun _ => by decide, by simp, ?_⟩
      rw [List.flatten_nil, constraints?]
      rfl
  | cons a as ih =>
      obtain ⟨tss, hlex, hkeyless, hhead, hread⟩ := ih
      obtain ⟨t, ts, hlex', hkeyless', hhead', hread'⟩ := a.spells_text
      refine ⟨(t :: ts) :: tss, .cons hlex' hlex, fun hall => ?_, ?_, ?_⟩
      · rw [List.all_cons, Bool.and_eq_true, Bool.not_eq_true'] at hall
        exact (hkeyless' hall.1).append (hkeyless hall.2)
      · simpa using hhead'
      · rw [List.flatten_cons, List.cons_append, constraints?, hread' _ hhead]
        simp [hread]

end ColumnAttribute

namespace ColumnDecl

/-- The attributes that the part of a column shows: all of them, or all but the keys. -/
def shown (inlineKey : Bool) (d : ColumnDecl) : List ColumnAttribute :=
  if inlineKey then d.attributes else d.attributes.filter (!·.isPrimaryKey)

theorem filterMap_toSql? (inlineKey : Bool) (d : ColumnDecl) :
    d.attributes.filterMap (·.toSql? inlineKey) = (d.shown inlineKey).map ColumnAttribute.text := by
  cases inlineKey with
  | true => simp [shown, ColumnAttribute.toSql?_eq]
  | false =>
      rw [shown, if_neg Bool.false_ne_true, ← List.filterMap_eq_map, List.filterMap_filter]
      simp only [ColumnAttribute.toSql?_eq, Bool.false_or]
      rfl

theorem toSql_eq (inlineKey : Bool) (d : ColumnDecl) :
    d.toSql inlineKey
      = " ".intercalate
        (d.name :: d.kind.toSql :: (d.shown inlineKey).map ColumnAttribute.text) := by
  rw [toSql, filterMap_toSql?]

variable {d : ColumnDecl} (hname : isIdentifier d.name = true) (inlineKey : Bool)

include hname

/-- The part of a column is read as the column. -/
theorem spells_toSql :
    ∃ ts, tokens? (d.toSql inlineKey).toList = some ts ∧
      declaration? ts = some ⟨d.name, d.kind, (d.shown inlineKey).map .ofAttribute⟩ ∧
      (inlineKey = false → Keyless ts) := by
  obtain ⟨kinds, hkind, hkeyless, hread⟩ := d.kind.spells_toSql
  obtain ⟨tss, hlex, hkeyless', -, hread'⟩ := ColumnAttribute.exists_tokens (d.shown inlineKey)
  have hword : Lexes d.name.toList [.word d.name] :=
    lexes_word (isRun_of_isIdentifier hname) (ne_nil_of_isIdentifier hname)
  refine ⟨.word d.name :: (kinds ++ tss.flatten), ?_, ?_, ?_⟩
  · rw [d.toSql_eq]
    exact (lexes_words (.cons hword (.cons hkind hlex))).eq_some
  · simp [declaration?, hread, hread', hname]
  · rintro rfl
    have hall : (d.shown false).all (!·.isPrimaryKey) = true := by simp [shown]
    exact List.forall_mem_cons.mpr ⟨makesKey_identifier hname, hkeyless.append (hkeyless' hall)⟩

/-- The part of a column can be an item of a list. -/
theorem item_toSql : Item (d.toSql inlineKey) := by
  have hitem : Item d.name := (isRun_of_isIdentifier hname).item
  rw [toSql_eq]
  constructor
  · refine Passes.words fun s hs => ?_
    rcases List.mem_cons.mp hs with rfl | hs
    · exact hitem.passes
    · rcases List.mem_cons.mp hs with rfl | hs
      · exact d.kind.passes_toSql
      · obtain ⟨a, -, rfl⟩ := List.mem_map.mp hs
        exact a.passes_text
  · rw [String.intercalate_cons_cons, String.append_assoc, String.toList_append,
      List.head?_append_of_ne_nil _ (ne_nil_of_isIdentifier hname)]
    exact hitem.head

end ColumnDecl

/-! ## The list of a table -/

/-- One of the attributes makes the column a key. -/
def ColumnDecl.IsKey (d : ColumnDecl) : Prop :=
  ∃ autoIncrement, ColumnAttribute.primaryKey autoIncrement ∈ d.attributes

theorem ColumnDecl.isPrimaryKey_iff {d : ColumnDecl} : d.isPrimaryKey = true ↔ d.IsKey := by
  rw [isPrimaryKey, List.any_eq_true]
  constructor
  · rintro ⟨a, ha, hkey⟩
    cases a with
    | primaryKey autoIncrement => exact ⟨autoIncrement, ha⟩
    | notNull => cases hkey
    | unique => cases hkey
    | default value => cases hkey
  · rintro ⟨autoIncrement, ha⟩
    exact ⟨_, ha, rfl⟩

instance (d : ColumnDecl) : Decidable d.IsKey := decidable_of_iff _ ColumnDecl.isPrimaryKey_iff

/-- The names of the columns that are keys, in order. -/
def keyNames (columns : List ColumnDecl) : List String :=
  (columns.filter fun d => d.IsKey).map ColumnDecl.name

/-- Several columns are keys, so that none of them is one by itself. -/
def HasCompositeKey (columns : List ColumnDecl) : Prop := 2 ≤ (keyNames columns).length

instance (columns : List ColumnDecl) : Decidable (HasCompositeKey columns) :=
  inferInstanceAs (Decidable (2 ≤ (keyNames columns).length))

/-- The part that names the keys. -/
def keyPart (columns : List ColumnDecl) : String :=
  "PRIMARY KEY (" ++ ", ".intercalate (keyNames columns) ++ ")"

/-- The parts are those of the columns, with the key in each of them or in a part of its own. -/
theorem layoutParts_eq (columns : List ColumnDecl) :
    layoutParts columns = columns.map (·.toSql !(HasCompositeKey columns)) ++
      if HasCompositeKey columns then [keyPart columns] else [] := by
  have hkeys : (columns.filter ColumnDecl.isPrimaryKey).map ColumnDecl.name = keyNames columns := by
    rw [keyNames]
    congr 2
    funext d
    rw [Bool.eq_iff_iff, decide_eq_true_iff]
    exact ColumnDecl.isPrimaryKey_iff
  rw [layoutParts, hkeys]
  rfl

/-- The part that names the keys can be an item of a list, with the list in it. -/
theorem item_keyPart {columns : List ColumnDecl}
    (hnames : ∀ d ∈ columns, isIdentifier d.name = true) : Item (keyPart columns) := by
  have hkeys : ∀ name ∈ keyNames columns, IsWord name := by
    intro name hname
    obtain ⟨d, hd, rfl⟩ := List.mem_map.mp hname
    exact continues_of_isIdentifier (hnames d (List.mem_of_mem_filter hd))
  have hkey : Unmarked "PRIMARY KEY ".toList := by decide
  have hsep : Plain 0 0 ", ".toList := by decide
  have hlist := (Plain.intercalate hsep fun name hname => (hkeys name hname).plain 0).redacts
  have htext : keyPart columns
      = "PRIMARY KEY " ++ ("(" ++ ", ".intercalate (keyNames columns) ++ ")") :=
    String.toList_inj.mp (by simp [keyPart])
  rw [htext]
  exact Item.append ⟨hkey.passes 0, by decide⟩ (by decide) hlist.passes_parens
    (.inl hkey.quote_not_mem)

/-- Every part can be an item of the list. -/
theorem item_layoutParts {columns : List ColumnDecl}
    (hnames : ∀ d ∈ columns, isIdentifier d.name = true) :
    ∀ part ∈ layoutParts columns, Item part := by
  intro part hpart
  rw [layoutParts_eq] at hpart
  rcases List.mem_append.mp hpart with hpart | hpart
  · obtain ⟨d, hd, rfl⟩ := List.mem_map.mp hpart
    exact ColumnDecl.item_toSql (hnames d hd) _
  · split at hpart
    · rw [List.mem_singleton.mp hpart]
      exact item_keyPart hnames
    · cases hpart

namespace Statement

/-- The one list that the declaration of a table shows. -/
theorem lists?_createTable {name : String} {columns : List ColumnDecl}
    (hname : IsWord name) (hcolumns : columns ≠ [])
    (hnames : ∀ d ∈ columns, isIdentifier d.name = true) :
    ∃ text, (createTable name columns).toSql = .ok text ∧
      lists? text = some [layoutParts columns] := by
  refine ⟨_, rfl, ?_⟩
  have hne : layoutParts columns ≠ [] := by
    rw [layoutParts_eq]
    simp [hcolumns]
  have hcreate : Unmarked "CREATE TABLE IF NOT EXISTS ".toList := by decide
  have hblank : Unmarked " ".toList := by decide
  have hend : Unmarked ";".toList := by decide
  have hunmarked : Unmarked name.toList := hname.isRun.unmarked
  have hlist := (((hcreate.lists.append hunmarked.lists hunmarked.unquoted).append hblank.lists
    hblank.unquoted).append (lists_parens hne (item_layoutParts hnames)) (unquoted_parens _)).append
    hend.lists hend.unquoted
  have htext : "CREATE TABLE IF NOT EXISTS " ++ name ++ " (" ++
      ", ".intercalate (layoutParts columns) ++ ");"
      = "CREATE TABLE IF NOT EXISTS " ++ name ++ " " ++
        ("(" ++ ", ".intercalate (layoutParts columns) ++ ")") ++ ";" :=
    String.toList_inj.mp (by simp)
  rw [htext]
  exact hlist.lists?_eq

/-- The declaration of a table shows one list, a part for each column.  If several columns are keys,
one part more names these in order and no word of the other parts makes a key; otherwise every
column shows its keys itself.  The other attributes of a column are shown in order. -/
theorem createTable_parts {name : String} {columns : List ColumnDecl}
    (hname : IsWord name) (hcolumns : columns ≠ [])
    (hnames : ∀ d ∈ columns, isIdentifier d.name = true) :
    ∃ (text : String) (parts : List String),
      (createTable name columns).toSql = .ok text ∧
      lists? text = some [parts ++ if HasCompositeKey columns then [keyPart columns] else []] ∧
      List.Forall₂ (fun d part => ∃ ts, tokens? part.toList = some ts ∧
        declaration? ts = some ⟨d.name, d.kind,
          (if HasCompositeKey columns then d.attributes.filter (!·.isPrimaryKey)
            else d.attributes).map .ofAttribute⟩ ∧
        (HasCompositeKey columns → Keyless ts)) columns parts := by
  obtain ⟨text, htext, hlists⟩ := lists?_createTable hname hcolumns hnames
  rw [layoutParts_eq] at hlists
  refine ⟨text, _, htext, hlists, ?_⟩
  rw [List.forall₂_map_right_iff, List.forall₂_same]
  intro d hd
  have hpart := ColumnDecl.spells_toSql (hnames d hd) !(HasCompositeKey columns)
  simpa [ColumnDecl.shown] using hpart

/-- Defaults that look like keys and like lists, in a table with a composite key. -/
theorem createTable_parts_composite :
    ∃ (text : String) (parts : List String),
      (createTable "t" [⟨"a", .integer, [.primaryKey true, .notNull]⟩,
        ⟨"b", .char 8, [.default (.text "x', PRIMARY KEY (y"), .primaryKey false]⟩,
        ⟨"c", .text, [.unique, .default (.list [.integer (-1), .text ")"])]⟩]).toSql = .ok text ∧
      lists? text = some [parts ++ ["PRIMARY KEY (a, b)"]] ∧
      List.Forall₂ (fun (column : DeclaredColumn) part => ∃ ts, tokens? part.toList = some ts ∧
        declaration? ts = some column ∧ Keyless ts)
        [⟨"a", .integer, [.notNull]⟩, ⟨"b", .char 8, [.default (.text "x', PRIMARY KEY (y")]⟩,
          ⟨"c", .text, [.unique, .default (.list [.integer (-1), .text ")"])]⟩] parts := by
  obtain ⟨text, parts, htext, hlists, hparts⟩ :=
    @createTable_parts "t" [⟨"a", .integer, [.primaryKey true, .notNull]⟩,
        ⟨"b", .char 8, [.default (.text "x', PRIMARY KEY (y"), .primaryKey false]⟩,
        ⟨"c", .text, [.unique, .default (.list [.integer (-1), .text ")"])]⟩]
      (by decide) (by simp) (by decide +kernel)
  refine ⟨text, parts, htext, hlists, ?_⟩
  obtain _ | ⟨⟨as, ha, hreadA, hkeylessA⟩, _ | ⟨⟨bs, hb, hreadB, hkeylessB⟩,
    _ | ⟨⟨cs, hc, hreadC, hkeylessC⟩, _ | _⟩⟩⟩ := hparts
  exact .cons ⟨as, ha, hreadA, hkeylessA (by decide)⟩ (.cons ⟨bs, hb, hreadB,
    hkeylessB (by decide)⟩ (.cons ⟨cs, hc, hreadC, hkeylessC (by decide)⟩ .nil))

end Statement

end SqlStore
