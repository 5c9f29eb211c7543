/-
# What the text of a query tells

Two queries can have the same text without being the same: a truth value is written as an integer, a
group in parentheses may be one tree or another, and the columns of a join may come from one
selection or from several.  A `Sentence` is what the text tells of a query: the columns, the tables,
the items of the conditions, what is assigned, the terms of the order and the limit.  Each of these
parts ends where the next one begins, so that no text tells two sentences.

* `Told` : parts that are told from their tokens, with what can follow them;
* `Told.items`, `Told.clause` : lists with commas, and clauses that may be absent;
* `Query.sentence` : what the text of a query tells;
* `Query.says_toSql`, `Says.unique` : the text of a query tells its sentence, and no other;
* `Query.sentence_eq_of_toSql` : queries with one text have one sentence.
-/
import SqlStore.Proofs.Query.Filter
import SqlStore.Proofs.Statement.Redact

namespace SqlStore

/-! ## Parts that are told from their tokens -/

/-- Where two parts stand before something that can follow them and the tokens are the same, the
parts are the same, and so is what follows. -/
def Told {α : Type} (P : List Token → α → Prop) (F : List Token → Prop) : Prop :=
  ∀ ⦃ts us ts' us' : List Token⦄ ⦃a b : α⦄, P ts a → P us b → F ts' → F us' →
    ts ++ ts' = us ++ us' → a = b ∧ ts' = us'

/-- Nothing follows, or one of the given keywords does. -/
def Follows (keywords : List String) (ts : List Token) : Prop :=
  ∀ t ∈ ts.head?, ∃ k ∈ keywords, t = .word k

@[simp] theorem follows_nil (keywords : List String) : Follows keywords [] := nofun

theorem follows_word {keywords : List String} {k : String} (hk : k ∈ keywords) (ts : List Token) :
    Follows keywords (.word k :: ts) := by
  rintro t ⟨⟩
  exact ⟨k, hk, rfl⟩

theorem Follows.mono {keywords more : List String} {ts : List Token} (h : Follows keywords ts)
    (hsub : keywords ⊆ more) : Follows more ts := by
  intro t ht
  obtain ⟨k, hk, rfl⟩ := h t ht
  exact ⟨k, hsub hk, rfl⟩

section

variable {α : Type} {P : List Token → α → Prop} {F G : List Token → Prop}

/-- Where less can follow, parts are told all the more. -/
theorem Told.mono (h : Told P F) (hsub : ∀ ts, G ts → F ts) : Told P G :=
  fun _ _ _ _ _ _ ha hb hts hus heq => h ha hb (hsub _ hts) (hsub _ hus) heq

/-! ### Lists -/

/-- The tokens of several parts with commas between them. -/
inductive Items (P : List Token → α → Prop) : List Token → List α → Prop
  | one {ts : List Token} {a : α} : P ts a → Items P ts [a]
  | cons {ts us : List Token} {a : α} {as : List α} :
      P ts a → Items P us as → Items P (ts ++ .comma :: us) (a :: as)

/-- A list ends where no comma follows. -/
theorem Told.items (h : Told P F) (hcomma : ∀ ts, F (.comma :: ts)) :
    Told (Items P) fun ts => F ts ∧ ts.head? ≠ some .comma := by
  intro ts us ts' us' as bs has hbs hts hus heq
  induction has generalizing us bs with
  | one ha =>
      cases hbs with
      | one hb =>
          obtain ⟨rfl, rfl⟩ := h ha hb hts.1 hus.1 heq
          exact ⟨rfl, rfl⟩
      | cons hb _ =>
          rw [List.append_assoc, List.cons_append] at heq
          obtain ⟨-, rfl⟩ := h ha hb hts.1 (hcomma _) heq
          exact absurd rfl hts.2
  | cons ha _ ih =>
      rw [List.append_assoc, List.cons_append] at heq
      cases hbs with
      -- The comma behind the first part would be what follows the whole list.
      | one hb =>
          obtain ⟨-, rfl⟩ := h ha hb (hcomma _) hus.1 heq
          exact absurd rfl hus.2
      | cons hb hbs =>
          rw [List.append_assoc, List.cons_append] at heq
          obtain ⟨rfl, hrest⟩ := h ha hb (hcomma _) (hcomma _) heq
          obtain ⟨rfl, rfl⟩ := ih hbs (List.cons.inj hrest).2
          exact ⟨rfl, rfl⟩

/-- The items of a list may be told as something else. -/
theorem Items.map {β : Type} {f : β → α} {ts : List Token} {bs : List β}
    (h : Items (fun ts b => P ts (f b)) ts bs) : Items P ts (bs.map f) := by
  induction h with
  | one hb => exact .one hb
  | cons hb _ ih => exact .cons hb ih

/-- Texts with commas between them are read as the list of what they are. -/
theorem Items.exists_lexes {text : α → String} {as : List α} (hne : as ≠ [])
    (h : ∀ a ∈ as, ∃ ts, Lexes (text a).toList ts ∧ P ts a) :
    ∃ ts, Lexes (", ".intercalate (as.map text)).toList ts ∧ Items P ts as := by
  induction as with
  | nil => exact absurd rfl hne
  | cons a as ih =>
      obtain ⟨ts, hlex, hts⟩ := h a List.mem_cons_self
      cases as with
      | nil => exact ⟨ts, by simpa using hlex, .one hts⟩
      | cons b as =>
          obtain ⟨us, hlex', hus⟩ := ih (List.cons_ne_nil b as)
            fun c hc => h c (List.mem_cons_of_mem a hc)
          refine ⟨ts ++ .comma :: us, ?_, .cons hts hus⟩
          have hrest := Lexes.mark (c := ',') (t := .comma) rfl hlex'.space
          simpa [String.intercalate_cons_cons] using hlex.append hrest (apart_comma _)

/-! ### Clauses -/

/-- A clause that begins with a keyword and perhaps more words, and may be absent. -/
def Clausal (keyword : String) (more : List String) (P : List Token → α → Prop) (absent : α)
    (ts : List Token) (a : α) : Prop :=
  (a = absent ∧ ts = []) ∨ ∃ us, ts = .word keyword :: more.map .word ++ us ∧ P us a

variable {keyword : String} {more next : List String} {absent : α}

/-- What follows a clause tells whether the clause is there. -/
theorem Told.clause (h : Told P (Follows next)) (hkeyword : keyword ∉ next) :
    Told (Clausal keyword more P absent) (Follows next) := by
  -- An absent clause would have to be followed by its own keyword.
  have habsent {ts : List Token} (hts : Follows next (.word keyword :: ts)) : False := by
    obtain ⟨k, hk, heq⟩ := hts _ rfl
    cases heq
    exact hkeyword hk
  rintro ts us ts' us' a b (⟨rfl, rfl⟩ | ⟨ts, rfl, ha⟩) (⟨rfl, rfl⟩ | ⟨us, rfl, hb⟩) hts hus heq
  · exact ⟨rfl, heq⟩
  · rw [List.nil_append] at heq
    subst heq
    exact (habsent hts).elim
  · rw [List.nil_append] at heq
    subst heq
    exact (habsent hus).elim
  · rw [List.append_assoc, List.append_assoc] at heq
    exact h ha hb hts hus (List.append_cancel_left heq)

/-- Before a clause its keyword can follow, or what follows the clause. -/
theorem Clausal.follows {ts us : List Token} {a : α} (h : Clausal keyword more P absent ts a)
    (hus : Follows next us) : Follows (keyword :: next) (ts ++ us) := by
  obtain ⟨-, rfl⟩ | ⟨vs, rfl, -⟩ := h
  · exact hus.mono (List.subset_cons_self keyword next)
  · exact follows_word List.mem_cons_self _

end

/-! ## The parts of a query -/

/-- The tokens of a literal, inside of any lists. -/
def IsLiteral (ts : List Token) (v : Literal) : Prop :=
  ∀ outer rest, literalIn outer (ts ++ rest) = literalAfter v outer rest

/-- A literal ends by itself. -/
theorem told_literal : Told IsLiteral fun _ => True := by
  intro ts us ts' us' a b ha hb _ _ heq
  have hread := literal?_append ha ts'
  rw [heq, literal?_append hb us'] at hread
  cases hread
  exact ⟨rfl, rfl⟩

/-- The tokens of the items of a condition set. -/
def IsConditions (ts : List Token) (items : List (Lexeme Clause)) : Prop :=
  ∀ rest, lexemes? (ts ++ rest) = (lexemes? rest).map (items ++ ·)

theorem IsConditions.eq_some {ts : List Token} {items : List (Lexeme Clause)}
    (h : IsConditions ts items) : lexemes? ts = some items := by
  simpa [lexemes?] using h []

/-- The keywords of the clauses behind the conditions are no items of them. -/
theorem lexemes?_keyword {k : String} (hk : k ∈ ["ORDER", "LIMIT"]) (rest : List Token) :
    lexemes? (.word k :: rest) = none := by
  have hkeyword : k = "ORDER" ∨ k = "LIMIT" := by simpa using hk
  have hclause : clause? (.word k :: rest) = none := by
    have hname : ColumnName.ofWord? k = none := by
      rcases hkeyword with rfl | rfl <;> decide +kernel
    have hliteral : Literal.ofWord? k = none := by rcases hkeyword with rfl | rfl <;> decide +kernel
    rw [clause?, hname, hliteral]
    rfl
  rw [lexemes?, hclause]
  all_goals rcases hkeyword with rfl | rfl <;> simp

/-- Conditions end where they cannot be read on. -/
theorem told_conditions : Told IsConditions (Follows ["ORDER", "LIMIT"]) := by
  -- Items behind other items would begin with the keyword that follows those.
  have hend {ts vs us : List Token} {a b : List (Lexeme Clause)} (ha : IsConditions ts a)
      (hb : IsConditions (ts ++ vs) b) (hvs : Follows ["ORDER", "LIMIT"] (vs ++ us)) : vs = [] := by
    cases vs with
    | nil => rfl
    | cons t vs =>
        obtain ⟨k, hk, rfl⟩ := hvs t rfl
        have hread := hb.eq_some
        rw [ha, lexemes?_keyword hk] at hread
        cases hread
  have hsame {ts : List Token} {a b : List (Lexeme Clause)} (ha : IsConditions ts a)
      (hb : IsConditions ts b) : a = b := Option.some.inj (ha.eq_some.symm.trans hb.eq_some)
  intro ts us ts' us' a b ha hb hts hus heq
  obtain ⟨vs, rfl, rfl⟩ | ⟨vs, rfl, rfl⟩ := List.append_eq_append_iff.mp heq
  · obtain rfl := hend ha hb hts
    rw [List.append_nil] at hb
    exact ⟨hsame ha hb, rfl⟩
  · obtain rfl := hend hb ha hus
    rw [List.append_nil] at ha
    exact ⟨hsame ha hb, rfl⟩

/-- The tokens of a column that a select shows, which may be the number of rows. -/
def columnTokens (text : String) : List Token :=
  if text = "count(*)" then [.word "count", .opening, .word "*", .closing] else [.word text]

/-- A column called `count` is told from the number of rows by what follows it. -/
theorem told_column :
    Told (fun ts text => ts = columnTokens text) fun ts => ts.head? ≠ some .opening := by
  rintro _ _ ts' us' a b rfl rfl hts hus heq
  unfold columnTokens at heq
  split at heq <;> split at heq
  · rename_i ha hb
    exact ⟨ha.trans hb.symm, List.append_cancel_left heq⟩
  · obtain ⟨-, rfl⟩ := List.cons.inj heq
    exact absurd rfl hus
  · obtain ⟨-, rfl⟩ := List.cons.inj heq
    exact absurd rfl hts
  · obtain ⟨ha, rfl⟩ := List.cons.inj heq
    exact ⟨Token.word.inj ha, rfl⟩

/-- The tokens of a term of the order: a column, and whether it ascends. -/
def termTokens (term : String × Bool) : List Token :=
  [.word term.1, .word (if term.2 then "ASC" else "DESC")]

theorem told_term : Told (fun ts term => ts = termTokens term) fun _ => True := by
  rintro _ _ ts' us' ⟨a, up⟩ ⟨b, up'⟩ rfl rfl - - heq
  cases up <;> cases up' <;> simp_all [termTokens]

/-- The tokens of an assignment: a column and a literal. -/
def IsAssignment (ts : List Token) (a : String × Literal) : Prop :=
  ∃ us, ts = .word a.1 :: .operator "=" :: us ∧ IsLiteral us a.2

theorem told_assignment : Told IsAssignment fun _ => True := by
  rintro _ _ ts' us' ⟨a, v⟩ ⟨b, w⟩ ⟨ts, rfl, hv⟩ ⟨us, rfl, hw⟩ - - heq
  obtain ⟨hname, hrest⟩ := List.cons.inj heq
  obtain rfl : a = b := Token.word.inj hname
  obtain ⟨rfl, rfl⟩ := told_literal hv hw trivial trivial (List.cons.inj hrest).2
  exact ⟨rfl, rfl⟩

/-- The words of a kind of join. -/
def JoinKind.words : JoinKind → List String
  | .inner => ["INNER"]
  | .leftOuter => ["LEFT", "OUTER"]
  | .cross => ["CROSS"]

/-- The tokens of one joined table. -/
def joinTokens (base : String) (on : JoinOn) : List Token :=
  on.kind.words.map .word ++
    [.word "JOIN", .word on.table, .word "ON", .word (base ++ "." ++ on.left), .operator "=",
      .word (on.table ++ "." ++ on.right)]

/-- One joined table is told whatever follows. -/
theorem joinTokens_inj {base : String} {on on' : JoinOn} {ts us : List Token}
    (h : joinTokens base on ++ ts = joinTokens base on' ++ us) : on = on' ∧ ts = us := by
  obtain ⟨kind, table, left, right⟩ := on
  obtain ⟨kind', table', left', right'⟩ := on'
  cases kind <;> cases kind' <;> simp [joinTokens, JoinKind.words] at h
  all_goals
    obtain ⟨rfl, rfl, hright, rfl⟩ := h
    exact ⟨by rw [(String.append_right_inj _).mp hright], rfl⟩

/-- The joined tables end where no further one is joined. -/
theorem told_joins (base : String) :
    Told (fun ts (joins : List JoinOn) => ts = joins.flatMap (joinTokens base))
      (Follows ["WHERE", "ORDER", "LIMIT"]) := by
  -- A joined table begins with the kind of the join.
  have hend {on : JoinOn} {ts : List Token}
      (h : Follows ["WHERE", "ORDER", "LIMIT"] (joinTokens base on ++ ts)) : False := by
    obtain ⟨kind, table, left, right⟩ := on
    cases kind <;> simp [Follows, joinTokens, JoinKind.words] at h
  rintro _ _ ts' us' joins joins' rfl rfl hts hus heq
  induction joins generalizing joins' with
  | nil =>
      cases joins' with
      | nil => exact ⟨rfl, heq⟩
      | cons on joins' =>
          rw [List.flatMap_nil, List.nil_append, List.flatMap_cons, List.append_assoc] at heq
          exact (hend (heq ▸ hts)).elim
  | cons on joins ih =>
      rw [List.flatMap_cons, List.append_assoc] at heq
      cases joins' with
      | nil =>
          rw [List.flatMap_nil, List.nil_append] at heq
          exact (hend (heq ▸ hus)).elim
      | cons on' joins' =>
          rw [List.flatMap_cons, List.append_assoc] at heq
          obtain ⟨rfl, hrest⟩ := joinTokens_inj heq
          obtain ⟨rfl, rfl⟩ := ih hrest
          exact ⟨rfl, rfl⟩

/-! ## Sentences -/

/-- What the text of a query tells. -/
inductive Sentence
  /-- A select or a join, its order by columns that ascend or descend. -/
  | rows (columns : List String) (table : String) (joins : List JoinOn)
      (conditions : List (Lexeme Clause)) (order : List (String × Bool)) (limit : Option UInt64)
  | update (table : String) (assignments : List (String × Literal))
      (conditions : List (Lexeme Clause))
  | delete (table : String) (conditions : List (Lexeme Clause))

/-- The tokens of the clauses at the end of a query. -/
abbrev IsWhere : List Token → List (Lexeme Clause) → Prop := Clausal "WHERE" [] IsConditions []

abbrev IsOrder : List Token → List (String × Bool) → Prop :=
  Clausal "ORDER" ["BY"] (Items fun ts term => ts = termTokens term) []

abbrev IsLimit : List Token → Option UInt64 → Prop :=
  Clausal "LIMIT" [] (fun ts limit => ∃ n, limit = some n ∧ ts = [.word (toString n)]) none

/-- The tokens tell the sentence. -/
inductive Says : List Token → Sentence → Prop
  | rows {cs ws os ls : List Token} {columns : List String} {table : String}
      {joins : List JoinOn} {conditions : List (Lexeme Clause)} {order : List (String × Bool)}
      {limit : Option UInt64} :
      Items (fun ts text => ts = columnTokens text) cs columns → IsWhere ws conditions →
      IsOrder os order → IsLimit ls limit →
      Says (.word "SELECT" :: (cs ++ .word "FROM" :: .word table ::
          (joins.flatMap (joinTokens table) ++ (ws ++ (os ++ ls)))))
        (.rows columns table joins conditions order limit)
  | update {as ws : List Token} {table : String} {assignments : List (String × Literal)}
      {conditions : List (Lexeme Clause)} :
      Items IsAssignment as assignments → IsWhere ws conditions →
      Says (.word "UPDATE" :: .word table :: .word "SET" :: (as ++ ws))
        (.update table assignments conditions)
  | delete {ws : List Token} {table : String} {conditions : List (Lexeme Clause)} :
      IsWhere ws conditions →
      Says (.word "DELETE" :: .word "FROM" :: .word table :: ws) (.delete table conditions)

/-- A keyword is no comma, and no parenthesis. -/
theorem Follows.head?_ne {keywords : List String} {ts : List Token} (h : Follows keywords ts)
    {t : Token} (ht : ∀ k, t ≠ .word k) : ts.head? ≠ some t := by
  intro hhead
  obtain ⟨k, -, rfl⟩ := h t hhead
  exact ht k rfl

theorem told_where : Told IsWhere (Follows ["ORDER", "LIMIT"]) :=
  told_conditions.clause (by decide)

theorem told_order : Told IsOrder (Follows ["LIMIT"]) :=
  ((told_term.items fun _ => trivial).mono fun _ h => ⟨trivial, h.head?_ne nofun⟩).clause
    (by decide)

theorem told_limit : Told IsLimit (Follows []) := by
  refine Told.clause ?_ List.not_mem_nil
  rintro _ _ ts' us' _ _ ⟨m, rfl, rfl⟩ ⟨n, rfl, rfl⟩ - - heq
  obtain ⟨htext, rfl⟩ := List.cons.inj heq
  have hword : toString m.toNat = toString n.toNat := Token.word.inj htext
  have hnumber : m.toNat = n.toNat := by
    simpa using congrArg (fun w => Nat.ofDigitChars 10 w.toList 0) hword
  exact ⟨congrArg some (UInt64.toNat_inj.mp hnumber), rfl⟩

/-- Tokens tell one sentence. -/
theorem Says.unique {ts : List Token} {a b : Sentence} (ha : Says ts a) (hb : Says ts b) :
    a = b := by
  have hjust {keywords : List String} {us : List Token} (h : Follows keywords (us ++ [])) :
      Follows keywords us := by rwa [List.append_nil] at h
  generalize hus : ts = us at hb
  cases ha with
  | rows hcs hws hos hls =>
      cases hb with
      | rows hcs' hws' hos' hls' =>
          have hlimit := hjust (hls.follows (follows_nil []))
          have hlimit' := hjust (hls'.follows (follows_nil []))
          have horder := hos.follows hlimit
          have horder' := hos'.follows hlimit'
          have hcolumns := told_column.items fun ts => by simp
          -- From the left: once a part is told, the next one begins at one place in both.
          obtain ⟨rfl, hfrom⟩ := hcolumns hcs hcs' (by simp) (by simp) (List.cons.inj hus).2
          obtain ⟨htable, hjoins⟩ := List.cons.inj (List.cons.inj hfrom).2
          obtain rfl := Token.word.inj htable
          obtain ⟨rfl, hwhere⟩ := told_joins _ rfl rfl (hws.follows horder) (hws'.follows horder')
            hjoins
          obtain ⟨rfl, htail⟩ := told_where hws hws' horder horder' hwhere
          obtain ⟨rfl, rfl⟩ := told_order hos hos' hlimit hlimit' htail
          obtain ⟨rfl, -⟩ := told_limit hls hls' (follows_nil []) (follows_nil []) rfl
          rfl
      | update | delete => exact absurd hus (by simp)
  | update has hws =>
      cases hb with
      | update has' hws' =>
          have hend := hjust (hws.follows (follows_nil ["ORDER", "LIMIT"]))
          have hend' := hjust (hws'.follows (follows_nil ["ORDER", "LIMIT"]))
          have hassignments := told_assignment.items fun _ => trivial
          obtain ⟨htable, hset⟩ := List.cons.inj (List.cons.inj hus).2
          obtain rfl := Token.word.inj htable
          obtain ⟨rfl, rfl⟩ := hassignments has has' ⟨trivial, hend.head?_ne nofun⟩
            ⟨trivial, hend'.head?_ne nofun⟩ (List.cons.inj hset).2
          obtain ⟨rfl, -⟩ := told_where hws hws' (follows_nil _) (follows_nil _) rfl
          rfl
      | rows | delete => exact absurd hus (by simp)
  | delete hws =>
      cases hb with
      | delete hws' =>
          obtain ⟨htable, rfl⟩ := List.cons.inj (List.cons.inj (List.cons.inj hus).2).2
          obtain rfl := Token.word.inj htable
          obtain ⟨rfl, -⟩ := told_where hws hws' (follows_nil _) (follows_nil _) rfl
          rfl
      | rows | update => exact absurd hus (by simp)

/-! ## The sentence of a query -/

/-- The columns as a select over one table shows them. -/
def Selection.texts : Selection → List String
  | all => ["*"]
  | columns names => names

/-- What the items of the text of a set say. -/
def ConditionSet.said (set : ConditionSet) : List (Lexeme Clause) :=
  set.lexemes.map (Lexeme.map Clause.ofCondition)

/-- The terms of an order, those that ascend before the others. -/
def orderTerms (ascending descending : List String) : List (String × Bool) :=
  ascending.map (·, true) ++ descending.map (·, false)

namespace Query

/-- What the text of a query tells. -/
def sentence : Query → Sentence
  | select s => .rows s.selection.texts s.table [] s.filter.conditions.said
      (orderTerms s.filter.ascending s.filter.descending) s.filter.limit
  | join j => .rows (j.selections.flatMap fun s => s.selection.qualified s.table) j.base j.joins
      j.conditions.said
      (orderTerms (j.ascending.map ColumnInTable.toSql) (j.descending.map ColumnInTable.toSql))
      j.limit
  | update u => .update u.table (u.replace.map fun a => (a.column, .ofOption a.value))
      u.conditions.said
  | delete d => .delete d.table d.conditions.said

/-- Tables and columns are named by identifiers.  A select or a join shows at least one column, and
a select also the number of rows. -/
def IsNamed : Query → Prop
  | select s => isIdentifier s.table = true ∧ s.selection ≠ .columns [] ∧
      (∀ name ∈ s.selection.names, isIdentifier name = true ∨ name = "count(*)") ∧
      (∀ c ∈ s.filter.conditions.leaves, c.IsNamed) ∧
      ∀ name ∈ s.filter.ascending ++ s.filter.descending, isIdentifier name = true
  | join j => isIdentifier j.base = true ∧
      (j.selections.flatMap fun s => s.selection.qualified s.table) ≠ [] ∧
      (∀ s ∈ j.selections, ∀ name ∈ s.table :: s.selection.names, isIdentifier name = true) ∧
      (∀ on ∈ j.joins, ∀ name ∈ [on.table, on.left, on.right], isIdentifier name = true) ∧
      (∀ c ∈ j.conditions.leaves, c.IsNamed) ∧
      ∀ c ∈ j.ascending ++ j.descending,
        isIdentifier c.table = true ∧ isIdentifier c.column = true
  | update u => isIdentifier u.table = true ∧
      (∀ a ∈ u.replace, isIdentifier a.column = true) ∧ ∀ c ∈ u.conditions.leaves, c.IsNamed
  | delete d => isIdentifier d.table = true ∧ ∀ c ∈ d.conditions.leaves, c.IsNamed

end Query

/-! ### Names -/

/-- A text that is one word. -/
def OneWord (text : String) : Prop := IsRun false text.toList ∧ text.toList ≠ []

instance (text : String) : Decidable (OneWord text) := inferInstanceAs (Decidable (_ ∧ _))

theorem OneWord.lexes {text : String} (h : OneWord text) : Lexes text.toList [.word text] :=
  lexes_word h.1 h.2

theorem oneWord_of_isIdentifier {name : String} (h : isIdentifier name = true) : OneWord name :=
  ⟨isRun_of_isIdentifier h, ne_nil_of_isIdentifier h⟩

/-- Two words with a point between them are one word. -/
theorem OneWord.qualified {table name : String} (ht : OneWord table) (hn : OneWord name) :
    OneWord (table ++ "." ++ name) := by
  have hpoint : IsRun false ".".toList := by decide
  constructor
  · rw [String.toList_append, String.toList_append]
    exact (ht.1.append hpoint).append hn.1
  · simp

/-- A column is shown by one word, and the number of rows by more. -/
theorem lexes_column {text : String} (h : OneWord text ∨ text = "count(*)") :
    Lexes text.toList (columnTokens text) := by
  rcases h with h | rfl
  · have hne : text ≠ "count(*)" := by
      rintro rfl
      exact absurd h.1 (by decide)
    rw [columnTokens, if_neg hne]
    exact h.lexes
  · have hcount : Lexes "count".toList [.word "count"] := lexes_word (by decide) (by decide)
    have hall : Lexes "*".toList [.word "*"] := lexes_word (by decide) (by decide)
    have hclose : Lexes [')'] [.closing] := .mark (t := .closing) rfl .nil
    have hopen := Lexes.mark (c := '(') (t := .opening) rfl (hall.append hclose (by simp))
    exact hcount.append hopen (apart_cons_of_mark (t := .opening) rfl _)

/-! ### Clauses -/

/-- The text of a clause, which stands apart from what is before it. -/
def SpellsPart {α : Type} (P : List Token → α → Prop) (text : String) (a : α) : Prop :=
  ∃ ts, Lexes text.toList ts ∧ Apart text.toList ∧ P ts a

section

variable {α : Type} {P : List Token → α → Prop} {keyword : String} {more : List String}
  {absent : α}

/-- An absent clause has no text. -/
theorem spellsPart_absent : SpellsPart (Clausal keyword more P absent) "" absent :=
  ⟨[], .nil, apart_nil, .inl ⟨rfl, rfl⟩⟩

/-- A clause that is there has its keywords and a text behind them. -/
theorem spellsPart_clause (hwords : ∀ w ∈ keyword :: more, OneWord w) {text : String}
    {ts : List Token} {a : α} (hlex : Lexes text.toList ts) (ha : P ts a) :
    SpellsPart (Clausal keyword more P absent)
      (" " ++ " ".intercalate (keyword :: more) ++ " " ++ text) a := by
  have hclause := ((lexes_keywords (keyword :: more) hwords).spaced hlex).space
  exact ⟨_, by simpa using hclause, by simp, .inr ⟨ts, rfl, ha⟩⟩

end

/-- The `WHERE` clause says the items of the conditions. -/
theorem ConditionSet.spellsPart_whereClause {set : ConditionSet}
    (hnamed : ∀ c ∈ set.leaves, c.IsNamed) {clause : String} (h : whereClause set = .ok clause) :
    SpellsPart IsWhere clause set.said := by
  obtain ⟨rfl, rfl⟩ | ⟨-, text, htext, rfl⟩ := whereClause_cases h
  · exact spellsPart_absent
  · obtain ⟨ts, hlex, hread⟩ := spells_toSql hnamed htext
    exact spellsPart_clause (by decide) hlex hread

/-- The `ORDER BY` clause says the terms of the order. -/
theorem spellsPart_orderClause {ascending descending : List String}
    (h : ∀ name ∈ ascending ++ descending, OneWord name) :
    SpellsPart IsOrder (orderClause ascending descending) (orderTerms ascending descending) := by
  let text (term : String × Bool) : String := term.1 ++ (if term.2 then " ASC" else " DESC")
  have htexts : ascending.map (· ++ " ASC") ++ descending.map (· ++ " DESC")
      = (orderTerms ascending descending).map text := by
    simp [orderTerms, text, Function.comp_def]
  have hterm : ∀ term ∈ orderTerms ascending descending,
      ∃ ts, Lexes (text term).toList ts ∧ ts = termTokens term := by
    rintro ⟨name, up⟩ hmem
    have hname : OneWord name := h name (by
      rcases List.mem_append.mp hmem with hmem | hmem
      · simp_all
      · simp_all)
    have hword (w : String) (hw : OneWord w) := hname.lexes.spaced hw.lexes
    cases up with
    | true => exact ⟨_, by simpa [text, termTokens] using hword "ASC" (by decide), rfl⟩
    | false => exact ⟨_, by simpa [text, termTokens] using hword "DESC" (by decide), rfl⟩
  rw [orderClause, htexts]
  cases hterms : orderTerms ascending descending with
  | nil => exact spellsPart_absent
  | cons term terms =>
      rw [hterms] at hterm
      obtain ⟨ts, hlex, hts⟩ := Items.exists_lexes (List.cons_ne_nil term terms) hterm
      exact spellsPart_clause (by decide) hlex hts

/-- The `LIMIT` clause says the limit. -/
theorem spellsPart_limitClause (limit : Option UInt64) :
    SpellsPart IsLimit (limitClause limit) limit := by
  cases limit with
  | none => exact spellsPart_absent
  | some n =>
      have hnumber : Lexes (toString n).toList [.word (toString n)] :=
        lexes_word (isRun_toString n.toNat) (toList_toString_ne_nil n.toNat)
      exact spellsPart_clause (by decide) hnumber ⟨n, rfl, rfl⟩

/-! ### Queries -/

/-- The joined tables stand one after another, each apart from what is before it. -/
theorem spellsPart_joins {base : String} {joins : List JoinOn} (hbase : OneWord base)
    (h : ∀ on ∈ joins, ∀ name ∈ [on.table, on.left, on.right], OneWord name) :
    SpellsPart (fun ts joins => ts = joins.flatMap (joinTokens base))
      (String.join (joins.map fun on => " " ++ on.toSql base)) joins := by
  induction joins with
  | nil => exact ⟨[], .nil, apart_nil, rfl⟩
  | cons on joins ih =>
      obtain ⟨ts, hlex, hapart, rfl⟩ := ih fun on' hon' => h on' (List.mem_cons_of_mem on hon')
      have hnames := h on List.mem_cons_self
      simp only [List.forall_mem_cons] at hnames
      obtain ⟨htable, hleft, hright, -⟩ := hnames
      have hkind : Lexes on.kind.keyword.toList (on.kind.words.map .word) := by
        cases on.kind with
        | inner => exact lexes_keywords ["INNER"] (by decide)
        | leftOuter => exact lexes_keywords ["LEFT", "OUTER"] (by decide)
        | cross => exact lexes_keywords ["CROSS"] (by decide)
      have hequal : Lexes "=".toList [.operator "="] := lexes_operator (by decide) (by decide)
      have hword (w : String) (hw : OneWord w) := hw.lexes
      have hjoin := hkind.spaced ((hword "JOIN" (by decide)).spaced (htable.lexes.spaced
        ((hword "ON" (by decide)).spaced ((hbase.qualified hleft).lexes.spaced
          (hequal.spaced (htable.qualified hright).lexes)))))
      refine ⟨_, ?_, by simp, rfl⟩
      simpa [JoinOn.toSql, joinTokens] using hjoin.space.append hlex hapart

section

variable {columns : List String} {table : String} {joins : List JoinOn} {set : ConditionSet}
  {ascending descending : List String}

/-- The text of a select or a join, but for the semicolon. -/
theorem exists_says_rows (hcolumns : columns ≠ [])
    (hshown : ∀ text ∈ columns, OneWord text ∨ text = "count(*)") (htable : OneWord table)
    (hjoins : ∀ on ∈ joins, ∀ name ∈ [on.table, on.left, on.right], OneWord name)
    (hnamed : ∀ c ∈ set.leaves, c.IsNamed)
    (horder : ∀ name ∈ ascending ++ descending, OneWord name) (limit : Option UInt64)
    {condition : String} (hcondition : whereClause set = .ok condition) :
    ∃ ts, Lexes ("SELECT " ++ ", ".intercalate columns ++ " FROM " ++ table ++
        String.join (joins.map fun on => " " ++ on.toSql table) ++ condition ++
        orderClause ascending descending ++ limitClause limit).toList ts ∧
      Says ts (.rows columns table joins set.said (orderTerms ascending descending) limit) := by
  have hcolumn : ∀ text ∈ columns, ∃ ts, Lexes (id text).toList ts ∧ ts = columnTokens text :=
    fun text htext => ⟨_, lexes_column (hshown text htext), rfl⟩
  obtain ⟨cs, hlex, hcs⟩ := Items.exists_lexes hcolumns hcolumn
  obtain ⟨_, hlexj, hapartj, rfl⟩ := spellsPart_joins htable hjoins
  obtain ⟨ws, hlexw, hapartw, hws⟩ := ConditionSet.spellsPart_whereClause hnamed hcondition
  obtain ⟨os, hlexo, haparto, hos⟩ := spellsPart_orderClause horder
  obtain ⟨ls, hlexl, hapartl, hls⟩ := spellsPart_limitClause limit
  have hword (w : String) (hw : OneWord w) := hw.lexes
  have hhead := (hword "SELECT" (by decide)).spaced (hlex.spaced
    ((hword "FROM" (by decide)).spaced htable.lexes))
  have htail := hlexj.append (hlexw.append (hlexo.append hlexl hapartl)
    (haparto.append hapartl)) (hapartw.append (haparto.append hapartl))
  refine ⟨_, ?_, .rows hcs hws hos hls⟩
  simpa using hhead.append htail (hapartj.append (hapartw.append (haparto.append hapartl)))

end

/-- The assignments of an update. -/
theorem exists_assignments {replace : List Assignment} (hne : replace ≠ [])
    (h : ∀ a ∈ replace, isIdentifier a.column = true) :
    ∃ ts, Lexes (", ".intercalate (replace.map Assignment.toSql)).toList ts ∧
      Items IsAssignment ts (replace.map fun a => (a.column, .ofOption a.value)) := by
  have hassignment : ∀ a ∈ replace, ∃ ts, Lexes a.toSql.toList ts ∧
      IsAssignment ts (a.column, .ofOption a.value) := by
    intro a ha
    obtain ⟨ts, hlex, hread⟩ := spellsLiteral_option a.value
    have hequal : Lexes "=".toList [.operator "="] := lexes_operator (by decide) (by decide)
    have hlexes := (oneWord_of_isIdentifier (h a ha)).lexes.spaced (hequal.spaced hlex)
    exact ⟨_, by simpa [Assignment.toSql] using hlexes, ts, rfl, hread⟩
  obtain ⟨ts, hlex, hitems⟩ := Items.exists_lexes hne hassignment
  exact ⟨ts, hlex, hitems.map⟩

/-- A select over one table shows its columns, which are words, or the number of rows. -/
theorem Selection.texts_spec {selection : Selection} (hne : selection ≠ .columns [])
    (h : ∀ name ∈ selection.names, isIdentifier name = true ∨ name = "count(*)") :
    selection.toSql = ", ".intercalate selection.texts ∧ selection.texts ≠ [] ∧
      ∀ text ∈ selection.texts, OneWord text ∨ text = "count(*)" := by
  cases selection with
  | all =>
      refine ⟨rfl, List.cons_ne_nil _ _, fun text htext => .inl ?_⟩
      obtain rfl := List.mem_singleton.mp htext
      decide
  | columns names =>
      refine ⟨rfl, fun hnil => hne (congrArg Selection.columns hnil), fun text htext => ?_⟩
      exact (h text htext).imp_left oneWord_of_isIdentifier

/-- The columns of one table of a join are words. -/
theorem Selection.oneWord_qualified {table : String} {selection : Selection}
    (h : ∀ name ∈ table :: selection.names, isIdentifier name = true) :
    ∀ text ∈ selection.qualified table, OneWord text := by
  have htable := oneWord_of_isIdentifier (h table List.mem_cons_self)
  intro text htext
  cases selection with
  | all =>
      obtain rfl := List.mem_singleton.mp htext
      have hall : OneWord "*" := by decide
      simpa [String.append_assoc] using htable.qualified hall
  | columns names =>
      obtain ⟨name, hname, rfl⟩ := List.mem_map.mp htext
      exact htable.qualified (oneWord_of_isIdentifier (h name (List.mem_cons_of_mem table hname)))

namespace Query

/-- The text of a query on named tables and columns tells its sentence, before the semicolon. -/
theorem says_toSql {q : Query} (hq : q.IsNamed) {text : String} (h : q.toSql = .ok text) :
    ∃ body ts, text = body ++ ";" ∧ Lexes body.toList ts ∧ Says ts q.sentence := by
  have hword (w : String) (hw : OneWord w) := hw.lexes
  cases q with
  | select s =>
      obtain ⟨htable, hcolumns, hshown, hnamed, horder⟩ := hq
      obtain ⟨condition, hcondition, ⟨⟩⟩ := bind_eq_ok_iff.mp h
      obtain ⟨htext, hne, hwords⟩ := Selection.texts_spec hcolumns hshown
      have hjoins : ∀ on ∈ ([] : List JoinOn), ∀ name ∈ [on.table, on.left, on.right],
          OneWord name := nofun
      obtain ⟨ts, hlex, hsays⟩ := exists_says_rows hne hwords (oneWord_of_isIdentifier htable)
        hjoins hnamed (fun name hname => oneWord_of_isIdentifier (horder name hname))
        s.filter.limit hcondition
      exact ⟨_, ts, rfl, by simpa [htext] using hlex, hsays⟩
  | update u =>
      obtain ⟨htable, hassigned, hnamed⟩ := hq
      change u.toSql = .ok text at h
      rw [Update.toSql] at h
      split at h
      · cases h
      · rename_i hsome
        obtain ⟨condition, hcondition, ⟨⟩⟩ := bind_eq_ok_iff.mp h
        obtain ⟨ws, hlexw, hapart, hws⟩ := ConditionSet.spellsPart_whereClause hnamed hcondition
        obtain ⟨as, hlex, has⟩ := exists_assignments
          (fun hnil => hsome (List.isEmpty_iff.mpr hnil)) hassigned
        have hhead := (hword "UPDATE" (by decide)).spaced
          ((oneWord_of_isIdentifier htable).lexes.spaced ((hword "SET" (by decide)).spaced hlex))
        exact ⟨_, _, rfl, by simpa using hhead.append hlexw hapart, .update has hws⟩
  | delete d =>
      obtain ⟨htable, hnamed⟩ := hq
      obtain ⟨condition, hcondition, ⟨⟩⟩ := bind_eq_ok_iff.mp h
      obtain ⟨ws, hlexw, hapart, hws⟩ := ConditionSet.spellsPart_whereClause hnamed hcondition
      have hhead := (hword "DELETE" (by decide)).spaced ((hword "FROM" (by decide)).spaced
        (oneWord_of_isIdentifier htable).lexes)
      exact ⟨_, _, rfl, by simpa using hhead.append hlexw hapart, .delete hws⟩
  | join j =>
      obtain ⟨hbase, hcolumns, hshown, hjoins, hnamed, horder⟩ := hq
      obtain ⟨condition, hcondition, ⟨⟩⟩ := bind_eq_ok_iff.mp h
      have hwords : ∀ text ∈ j.selections.flatMap fun s => s.selection.qualified s.table,
          OneWord text ∨ text = "count(*)" := by
        intro text htext
        obtain ⟨s, hs, htext⟩ := List.mem_flatMap.mp htext
        exact .inl (Selection.oneWord_qualified (hshown s hs) text htext)
      have hterms : ∀ name ∈ j.ascending.map ColumnInTable.toSql
          ++ j.descending.map ColumnInTable.toSql, OneWord name := by
        rw [← List.map_append]
        intro name hname
        obtain ⟨c, hc, rfl⟩ := List.mem_map.mp hname
        obtain ⟨htable, hcolumn⟩ := horder c hc
        exact (oneWord_of_isIdentifier htable).qualified (oneWord_of_isIdentifier hcolumn)
      obtain ⟨ts, hlex, hsays⟩ := exists_says_rows hcolumns hwords (oneWord_of_isIdentifier hbase)
        (fun on hon name hname => oneWord_of_isIdentifier (hjoins on hon name hname)) hnamed hterms
        j.limit hcondition
      exact ⟨_, ts, rfl, hlex, hsays⟩

/-- Queries with one text tell one sentence. -/
theorem sentence_eq_of_toSql {q r : Query} (hq : q.IsNamed) (hr : r.IsNamed) {text : String}
    (h : q.toSql = .ok text) (h' : r.toSql = .ok text) : q.sentence = r.sentence := by
  obtain ⟨body, ts, rfl, hlex, hsays⟩ := says_toSql hq h
  obtain ⟨body', us, hbody, hlex', hsays'⟩ := says_toSql hr h'
  obtain rfl := (String.append_left_inj _).mp hbody
  obtain rfl : ts = us := Option.some.inj (hlex.eq_some.symm.trans hlex'.eq_some)
  exact hsays.unique hsays'

end Query

end SqlStore
