/-
# Reading a condition set back

The text of a condition set is read character by character: first tokens, then clauses, connectives
and parentheses, then the grouping in which `AND` binds more tightly than `OR` and both associate to
the left.  Every text reads back as the items of its set; a set that the combinators have built also
reads back as its own tree, because they never leave a bare compound under another one.

* `Predicate.ofText?` : the predicate that a text says;
* `ConditionSet.Nested` : the invariant: the operands of a compound are single or capsuled;
* `ConditionSet.Built.nested` : the combinators keep it;
* `ConditionSet.Built.ofText?_toSql` : sets that are built read back as their trees.
-/
import SqlStore.Proofs.Condition.Clause

namespace SqlStore

/-! ## Reading a text -/

/-- Reads a sequence of tokens as clauses, connectives and parentheses. -/
def lexemes? (ts : List Token) : Option (List (Lexeme Clause)) :=
  match ts with
  | [] => some []
  | .opening :: rest => (lexemes? rest).map (.opening :: ·)
  | .closing :: rest => (lexemes? rest).map (.closing :: ·)
  | .word "AND" :: rest => (lexemes? rest).map (.connective .and :: ·)
  | .word "OR" :: rest => (lexemes? rest).map (.connective .or :: ·)
  | t :: ts =>
      match clause? (t :: ts) with
      | some (c, rest) =>
          if rest.length ≤ ts.length then (lexemes? rest).map (.leaf c :: ·) else none
      | none => none
termination_by ts.length

/-- The predicate that a text says. -/
def Predicate.ofText? (text : String) : Option (Predicate Clause) :=
  (tokens? text.toList).bind fun ts => (lexemes? ts).bind Predicate.ofLexemes?

/-- An `AND` holds its operands together against an `OR` on either side. -/
example {Leaf : Type} (a b c d : Leaf) :
    Predicate.ofLexemes? [.leaf a, .connective .or, .leaf b, .connective .and, .leaf c,
        .connective .or, .leaf d]
      = some (.compound .or (.compound .or (.leaf a) (.compound .and (.leaf b) (.leaf c)))
          (.leaf d)) := rfl

/-! ## The items of the text of a set -/

/-- The item with another leaf. -/
def Lexeme.map {α β : Type} (f : α → β) : Lexeme α → Lexeme β
  | leaf a => leaf (f a)
  | connective op => connective op
  | opening => opening
  | closing => closing

/-- The text is a sequence of items: it is read to its end, and the rest on its own. -/
def SpellsLexemes (s : List Char) (items : List (Lexeme Clause)) : Prop :=
  ∃ ts : List Token, Lexes s ts ∧ ∀ rest, lexemes? (ts ++ rest) = (lexemes? rest).map (items ++ ·)

/-- The keyword of a connective starts no clause: it is reserved, and no literal. -/
theorem clause?_keyword (op : Connective) (rest : List Token) :
    clause? (.word op.keyword :: rest) = none := by
  have hname : ColumnName.ofWord? op.keyword = none := by cases op <;> decide +kernel
  have hliteral : Literal.ofWord? op.keyword = none := by cases op <;> rfl
  rw [clause?, hname, hliteral]
  rfl

/-- A clause is one item, as it starts with neither a parenthesis nor a connective. -/
theorem SpellsClause.lexemes {s : List Char} {c : Clause} (h : SpellsClause s c) :
    SpellsLexemes s [.leaf c] := by
  obtain ⟨ts, hlex, hread⟩ := h
  refine ⟨ts, hlex, fun rest => ?_⟩
  have hrest := hread rest
  cases ts with
  | nil => exact absurd (hread []) (by simp [clause?])
  | cons t ts =>
      rw [List.cons_append] at hrest ⊢
      rw [lexemes?, hrest]
      · simp
      · rintro rfl
        simp [clause?] at hrest
      · rintro rfl
        simp [clause?] at hrest
      · rintro rfl
        exact Option.some_ne_none _ (hrest.symm.trans (clause?_keyword .and _))
      · rintro rfl
        exact Option.some_ne_none _ (hrest.symm.trans (clause?_keyword .or _))

/-- Two texts with a connective between them. -/
theorem SpellsLexemes.connective {s t : List Char} {xs ys : List (Lexeme Clause)}
    (hs : SpellsLexemes s xs) (op : Connective) (ht : SpellsLexemes t ys) :
    SpellsLexemes (s ++ ' ' :: (op.keyword.toList ++ ' ' :: t)) (xs ++ .connective op :: ys) := by
  obtain ⟨ts, hlex, hread⟩ := hs
  obtain ⟨us, hlex', hread'⟩ := ht
  have hop : Lexes op.keyword.toList [.word op.keyword] := by
    cases op <;> exact lexes_word (by decide) (by decide)
  refine ⟨_, hlex.spaced (hop.spaced hlex'), fun rest => ?_⟩
  have hkeyword : lexemes? (.word op.keyword :: (us ++ rest))
      = (lexemes? (us ++ rest)).map (.connective op :: ·) := by
    cases op <;> rw [Connective.keyword, lexemes?]
  rw [List.append_assoc, hread, List.append_assoc, List.singleton_append, hkeyword, hread',
    Option.map_map, Option.map_map]
  congr 1
  funext zs
  simp

/-- A text in parentheses, if it is capsuled. -/
theorem SpellsLexemes.wrap {text : String} {xs : List (Lexeme Clause)}
    (h : SpellsLexemes text.toList xs) :
    SpellsLexemes (ConditionSet.wrap true text).toList (.opening :: xs ++ [.closing]) := by
  obtain ⟨ts, hlex, hread⟩ := h
  have hclose : Lexes [')'] [.closing] := .mark (t := .closing) rfl .nil
  refine ⟨.opening :: (ts ++ [.closing]), ?_, fun rest => ?_⟩
  · simpa [ConditionSet.wrap] using Lexes.mark (c := '(') (t := .opening) rfl
      (hlex.append hclose (apart_closing []))
  · rw [List.cons_append, lexemes?, List.append_assoc, hread, List.singleton_append, lexemes?,
      Option.map_map, Option.map_map]
    congr 1
    funext zs
    simp

namespace ConditionSet

/-- The text of a compound is made of the texts of its operands. -/
theorem toSql_compound {op : Connective} {left right : ConditionSet} {capsuled : Bool}
    {text : String} (h : (compound op left right capsuled).toSql = .ok text) :
    ∃ l r, left.toSql = .ok l ∧ right.toSql = .ok r ∧
      text = wrap capsuled (l ++ " " ++ op.keyword ++ " " ++ r) := by
  rw [toSql] at h
  cases hl : left.toSql with
  | error e => rw [hl] at h; cases h
  | ok l =>
      cases hr : right.toSql with
      | error e => rw [hl, hr] at h; cases h
      | ok r =>
          rw [hl, hr] at h
          cases h
          exact ⟨l, r, rfl, rfl, rfl⟩

/-- The text of any set on named columns reads back as the items of the set. -/
theorem spells_toSql {set : ConditionSet} (hnamed : ∀ c ∈ set.leaves, c.IsNamed) {text : String}
    (h : set.toSql = .ok text) :
    SpellsLexemes text.toList (set.lexemes.map (Lexeme.map Clause.ofCondition)) := by
  induction set generalizing text with
  | empty =>
      cases h
      exact ⟨[], .nil, fun rest => by simp [lexemes]⟩
  | single c => exact (c.spells_toSql (hnamed c (by simp [leaves])) h).lexemes
  | compound op left right capsuled ihl ihr =>
      obtain ⟨l, r, hl, hr, rfl⟩ := toSql_compound h
      have hleft := ihl (fun c hc => hnamed c (by simp [leaves, hc])) hl
      have hright := ihr (fun c hc => hnamed c (by simp [leaves, hc])) hr
      have hbody : SpellsLexemes (l ++ " " ++ op.keyword ++ " " ++ r).toList
          ((left.lexemes ++ .connective op :: right.lexemes).map
            (Lexeme.map Clause.ofCondition)) := by
        simpa [Lexeme.map] using hleft.connective op hright
      cases capsuled with
      | false => exact hbody
      | true => simpa [lexemes, Lexeme.map] using hbody.wrap

end ConditionSet

/-! ## Items that are one operand -/

namespace Predicate

/-- The predicate with other leaves. -/
def map {α β : Type} (f : α → β) : Predicate α → Predicate β
  | leaf a => leaf (f a)
  | compound op left right => compound op (left.map f) (right.map f)

section

variable {Leaf : Type} {xs ys : List (Lexeme Leaf)} {p q : Predicate Leaf}

/-- Wherever an operand is expected, the items are read as that operand and change nothing else. -/
def Reads (xs : List (Lexeme Leaf)) (p : Predicate Leaf) : Prop :=
  ∀ r : Reading Leaf, r.operand = none →
    xs.foldlM Reading.step r = some { r with operand := some p }

/-- A leaf is an operand. -/
theorem reads_leaf (a : Leaf) : Reads [.leaf a] (.leaf a) := by
  intro r hr
  simp [Reading.step, hr]

/-- A group of two operands is the two under their connective. -/
theorem Group.close_extend (op : Connective) (p q : Predicate Leaf) :
    ((⟨none, none⟩ : Group Leaf).extend op p).close q = compound op p q := by
  cases op <;> rfl

/-- Two operands with a connective between them: the first goes to the group. -/
theorem Reads.connective (hp : Reads xs p) (op : Connective) (hq : Reads ys q) (r : Reading Leaf)
    (hr : r.operand = none) :
    (xs ++ .connective op :: ys).foldlM Reading.step r
      = some { r with group := r.group.extend op p, operand := some q } := by
  rw [List.foldlM_append, hp r hr, Option.bind_eq_bind, Option.bind_some, List.foldlM_cons]
  simp only [Reading.step, Option.bind_eq_bind, Option.bind_some]
  exact hq _ rfl

/-- Two operands in parentheses are one operand. -/
theorem Reads.capsule (hp : Reads xs p) (op : Connective) (hq : Reads ys q) :
    Reads (.opening :: (xs ++ .connective op :: ys) ++ [.closing]) (.compound op p q) := by
  intro r hr
  have hopen : Reading.step r .opening
      = some { outer := r.group :: r.outer, group := ⟨none, none⟩, operand := none } := by
    simp [Reading.step, hr]
  rw [List.cons_append, List.foldlM_cons, hopen, Option.bind_eq_bind, Option.bind_some,
    List.foldlM_append, hp.connective op hq _ rfl]
  simp [Reading.step, Group.close_extend]

/-- An operand by itself is a predicate. -/
theorem Reads.ofLexemes? (hp : Reads xs p) : ofLexemes? xs = some p := by
  rw [Predicate.ofLexemes?, hp .start rfl]
  rfl

/-- Two operands with a connective between them are a predicate. -/
theorem Reads.ofLexemes?_connective (hp : Reads xs p) (op : Connective) (hq : Reads ys q) :
    Predicate.ofLexemes? (xs ++ .connective op :: ys) = some (.compound op p q) := by
  rw [Predicate.ofLexemes?, hp.connective op hq .start rfl, Option.bind_some, Reading.finish?]
  simp [Reading.start, Group.close_extend]

end

end Predicate

/-! ## The tree of a set -/

namespace ConditionSet

/-- The tree of a set without its capsules, if no part of it is empty. -/
def tree? : ConditionSet → Option (Predicate Condition)
  | empty => none
  | single c => some (.leaf c)
  | compound op left right _ => do
      let l ← left.tree?
      let r ← right.tree?
      return .compound op l r

/-- The set stands together as an operand: it is single or capsuled. -/
def Enclosed : ConditionSet → Prop
  | empty => False
  | single _ => True
  | compound _ _ _ capsuled => capsuled = true

/-- Every operand of a compound is enclosed: none is empty, and a compound operand is capsuled. -/
def Nested : ConditionSet → Prop
  | empty | single _ => True
  | compound _ left right _ => left.Enclosed ∧ right.Enclosed ∧ left.Nested ∧ right.Nested

/-- An enclosed set is read as one operand, its tree. -/
theorem Enclosed.reads {Leaf : Type} (f : Condition → Leaf) {set : ConditionSet}
    (he : set.Enclosed) (hn : set.Nested) :
    ∃ tree, set.tree? = some tree ∧
      Predicate.Reads (set.lexemes.map (Lexeme.map f)) (tree.map f) := by
  induction set with
  | empty => exact he.elim
  | single c => exact ⟨.leaf c, rfl, Predicate.reads_leaf (f c)⟩
  | compound op left right capsuled ihl ihr =>
      obtain ⟨hel, her, hnl, hnr⟩ := hn
      -- Both operands are enclosed, so that each is read as one operand in its turn.
      obtain ⟨l, hl, hreadl⟩ := ihl hel hnl
      obtain ⟨r, hr, hreadr⟩ := ihr her hnr
      cases capsuled with
      | false => cases he
      | true =>
          refine ⟨.compound op l r, by simp [tree?, hl, hr], ?_⟩
          simpa [lexemes, Lexeme.map, Predicate.map] using hreadl.capsule op hreadr

/-- The items of a nested set group as its tree does. -/
theorem Nested.ofLexemes? {Leaf : Type} (f : Condition → Leaf) {set : ConditionSet}
    (hn : set.Nested) (hne : set ≠ empty) :
    ∃ tree, set.tree? = some tree ∧
      Predicate.ofLexemes? (set.lexemes.map (Lexeme.map f)) = some (tree.map f) := by
  cases set with
  | empty => exact absurd rfl hne
  | single c =>
      have he : (single c).Enclosed := trivial
      obtain ⟨tree, htree, hread⟩ := he.reads f hn
      exact ⟨tree, htree, hread.ofLexemes?⟩
  | compound op left right capsuled =>
      cases capsuled with
      | true =>
          have he : (compound op left right true).Enclosed := rfl
          obtain ⟨tree, htree, hread⟩ := he.reads f hn
          exact ⟨tree, htree, hread.ofLexemes?⟩
      | false =>
          obtain ⟨hel, her, hnl, hnr⟩ := hn
          obtain ⟨l, hl, hreadl⟩ := hel.reads f hnl
          obtain ⟨r, hr, hreadr⟩ := her.reads f hnr
          refine ⟨.compound op l r, by simp [tree?, hl, hr], ?_⟩
          simpa [lexemes, Lexeme.map, Predicate.map] using hreadl.ofLexemes?_connective op hreadr

/-! ## Sets that are built -/

/-- The sets that the combinators build from conditions. -/
inductive Built : ConditionSet → Prop
  | empty : Built .empty
  | single (c : Condition) : Built (.single c)
  | and {left right : ConditionSet} : Built left → Built right → Built (left.and right)
  | or {left right : ConditionSet} : Built left → Built right → Built (left.or right)
  | capsule {set : ConditionSet} : Built set → Built set.capsule
  | qualified {set : ConditionSet} (table : String) : Built set → Built (set.qualified table)

/-- Capsuling a set leaves its operands as they are. -/
theorem Nested.capsule {set : ConditionSet} (h : set.Nested) : set.capsule.Nested := by
  cases set with
  | empty => exact h
  | single c => exact h
  | compound op left right capsuled => exact h

/-- A set that is not empty is enclosed once it is capsuled. -/
theorem enclosed_capsule {set : ConditionSet} (h : set ≠ empty) : set.capsule.Enclosed := by
  cases set with
  | empty => exact absurd rfl h
  | single c => trivial
  | compound op left right capsuled => rfl

/-- Combining two sets capsules them, unless one of them is empty. -/
theorem Nested.combine {left right : ConditionSet} (op : Connective) (hl : left.Nested)
    (hr : right.Nested) : (combine op left right).Nested := by
  rw [ConditionSet.combine.eq_def]
  split
  · exact hr
  · exact hl
  · rename_i hnel hner
    exact ⟨enclosed_capsule hnel, enclosed_capsule hner, hl.capsule, hr.capsule⟩

/-- Naming the table changes no capsule. -/
theorem Enclosed.qualified {set : ConditionSet} (table : String) (h : set.Enclosed) :
    (set.qualified table).Enclosed := by
  cases set with
  | empty => exact h
  | single c => trivial
  | compound op left right capsuled => exact h

theorem Nested.qualified {set : ConditionSet} (table : String) (h : set.Nested) :
    (set.qualified table).Nested := by
  induction set with
  | empty => trivial
  | single c => trivial
  | compound op left right capsuled ihl ihr =>
      obtain ⟨hel, her, hnl, hnr⟩ := h
      exact ⟨hel.qualified table, her.qualified table, ihl hnl, ihr hnr⟩

/-- The combinators never leave a bare compound or an empty set under a compound. -/
theorem Built.nested {set : ConditionSet} (h : set.Built) : set.Nested := by
  induction h with
  | empty => trivial
  | single c => trivial
  | and _ _ ihl ihr => exact ihl.combine .and ihr
  | or _ _ ihl ihr => exact ihl.combine .or ihr
  | capsule _ ih => exact ih.capsule
  | qualified table _ ih => exact ih.qualified table

/-- A set that is built reads back as its own tree, each leaf as what its text says. -/
theorem Built.ofText?_toSql {set : ConditionSet} (hset : set.Built) :
    set.Nested ∧ ∀ text, set.toSql = .ok text → set ≠ .empty → (∀ c ∈ set.leaves, c.IsNamed) →
      ∃ tree, set.tree? = some tree ∧
        Predicate.ofText? text = some (tree.map Clause.ofCondition) := by
  refine ⟨hset.nested, fun text htext hne hnamed => ?_⟩
  obtain ⟨ts, hlex, hread⟩ := spells_toSql hnamed htext
  obtain ⟨tree, htree, hgroup⟩ := hset.nested.ofLexemes? Clause.ofCondition hne
  refine ⟨tree, htree, ?_⟩
  have hitems : lexemes? ts = some (set.lexemes.map (Lexeme.map Clause.ofCondition)) := by
    simpa [lexemes?] using hread []
  rw [Predicate.ofText?, hlex.eq_some, Option.bind_some, hitems, Option.bind_some, hgroup]

/-- An operand that holds a quote, parentheses and connectives does not disturb the grouping, nor
does a list without elements. -/
theorem ofText?_toSql_quoted :
    ∃ tree,
      (((single ⟨none, "name", .equal, some (.text "it's (a) AND b")⟩).or
        (single ⟨some "pets", "age", .greaterThan false, some (.integer 3)⟩)).and
        (single ⟨none, "kind", .inList, some (.list [])⟩)).tree? = some tree ∧
      Predicate.ofText? "(name = 'it''s (a) AND b' OR pets.age > 3) AND 0 = 1"
        = some (tree.map Clause.ofCondition) := by
  have hset := Built.and (.or (.single ⟨none, "name", .equal, some (.text "it's (a) AND b")⟩)
    (.single ⟨some "pets", "age", .greaterThan false, some (.integer 3)⟩))
    (.single ⟨none, "kind", .inList, some (.list [])⟩)
  exact hset.ofText?_toSql.2 _ rfl nofun (by decide +kernel)

end ConditionSet

end SqlStore
