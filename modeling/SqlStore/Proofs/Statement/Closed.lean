/-
# Statements without injection

Whatever values a statement holds, its text is one statement, and other texts in their place change
nothing outside of literals.  Only the names have to be names.

* `ColumnDecl.redacts_toSql`, `redacts_layoutParts` : declarations;
* `Statement.redacts_toSql` : a statement and its redaction;
* `Statement.no_injection` : one statement, whatever its values are.
-/
import SqlStore.Proofs.Result
import SqlStore.Proofs.Statement.Query

namespace SqlStore

/-! ## Declarations -/

/-- The type of a column. -/
theorem DataKind.plain_toSql (kind : DataKind) : Plain 0 0 kind.toSql.toList := by
  cases kind with
  | integer => exact (by decide : Plain 0 0 "INTEGER".toList)
  | text => exact (by decide : Plain 0 0 "TEXT".toList)
  | real => exact (by decide : Plain 0 0 "REAL".toList)
  | char size =>
      have hopening : Plain 0 1 "CHAR(".toList := by decide
      have hclosing : Plain 1 0 ")".toList := by decide
      show Plain 0 0 ("CHAR(" ++ toString size.toNat ++ ")").toList
      exact (hopening.followedBy ((digits_toString size.toNat).plain 1)).followedBy hclosing

namespace ColumnAttribute

/-- Redaction keeps keys. -/
theorem isPrimaryKey_redact (a : ColumnAttribute) : a.redact.isPrimaryKey = a.isPrimaryKey := by
  cases a <;> rfl

/-- An attribute has no text, or one that holds the literal of a default at most. -/
theorem redacts_toSql? (inlineKey : Bool) (a : ColumnAttribute) :
    (a.toSql? inlineKey = none ∧ a.redact.toSql? inlineKey = none) ∨
      ∃ s t, a.toSql? inlineKey = some s ∧ a.redact.toSql? inlineKey = some t ∧
        Redacts 0 0 s t := by
  cases a with
  | primaryKey autoIncrement =>
      cases inlineKey with
      | false => exact .inl ⟨rfl, rfl⟩
      | true =>
          refine .inr ⟨_, _, rfl, rfl, Plain.redacts ?_⟩
          cases autoIncrement <;> decide
  | notNull => exact .inr ⟨_, _, rfl, rfl, Plain.redacts (by decide)⟩
  | unique => exact .inr ⟨_, _, rfl, rfl, Plain.redacts (by decide)⟩
  | default value =>
      have hdefault : Plain 0 0 "DEFAULT ".toList := by decide
      exact .inr ⟨_, _, rfl, rfl, .plain_append hdefault value.redacts_toSql⟩

/-- The attributes that have a text. -/
theorem redacts_filterMap (inlineKey : Bool) (as : List ColumnAttribute) :
    List.Forall₂ (Redacts 0 0) (as.filterMap (·.toSql? inlineKey))
      ((as.map redact).filterMap (·.toSql? inlineKey)) := by
  induction as with
  | nil => exact .nil
  | cons a as ih =>
      rcases a.redacts_toSql? inlineKey with ⟨ha, ha'⟩ | ⟨s, t, ha, ha', h⟩
      · rw [List.map_cons, List.filterMap_cons, List.filterMap_cons, ha, ha']
        exact ih
      · rw [List.map_cons, List.filterMap_cons, List.filterMap_cons, ha, ha']
        exact .cons h ih

end ColumnAttribute

namespace ColumnDecl

theorem isPrimaryKey_redact (d : ColumnDecl) : d.redact.isPrimaryKey = d.isPrimaryKey := by
  rw [isPrimaryKey, redact, List.any_map, isPrimaryKey]
  congr 1
  funext a
  exact a.isPrimaryKey_redact

/-- The text of a declaration of a name. -/
theorem redacts_toSql {d : ColumnDecl} (hname : IsWord d.name) (inlineKey : Bool) :
    Redacts 0 0 (d.toSql inlineKey) (d.redact.toSql inlineKey) := by
  have hblank : Plain 0 0 " ".toList := by decide
  refine .intercalate hblank (by decide) ?_
  exact .cons (hname.plain 0).redacts (.cons d.kind.plain_toSql.redacts
    (ColumnAttribute.redacts_filterMap inlineKey d.attributes))

end ColumnDecl

/-- Redaction keeps the columns that are keys. -/
theorem keys_redact (columns : List ColumnDecl) :
    ((columns.map ColumnDecl.redact).filter ColumnDecl.isPrimaryKey).map ColumnDecl.name
      = (columns.filter ColumnDecl.isPrimaryKey).map ColumnDecl.name := by
  have hkey : ColumnDecl.isPrimaryKey ∘ ColumnDecl.redact = ColumnDecl.isPrimaryKey :=
    funext ColumnDecl.isPrimaryKey_redact
  rw [List.filter_map, hkey, List.map_map]
  rfl

/-- The parts of a `CREATE TABLE` body. -/
theorem redacts_layoutParts {columns : List ColumnDecl} (h : ∀ d ∈ columns, IsWord d.name) :
    List.Forall₂ (Redacts 0 0) (layoutParts columns)
      (layoutParts (columns.map ColumnDecl.redact)) := by
  unfold layoutParts
  -- Whether the key is composite depends on what redaction keeps.
  rw [keys_redact]
  extract_lets keys composite
  refine List.rel_append ?_ ?_
  · rw [List.map_map, List.forall₂_map_left_iff, List.forall₂_map_right_iff, List.forall₂_same]
    intro d hd
    exact ColumnDecl.redacts_toSql (h d hd) (!composite)
  · split
    · have hkeys : ∀ name ∈ keys, IsWord name := by
        intro name hname
        obtain ⟨d, hd, rfl⟩ := List.mem_map.mp hname
        exact h d (List.mem_of_mem_filter hd)
      have hopening : Plain 0 1 "PRIMARY KEY (".toList := by decide
      have hclosing : Plain 1 0 ")".toList := by decide
      refine .cons (Plain.redacts ?_) .nil
      exact (hopening.followedBy (plain_names hkeys 1)).followedBy hclosing
    · exact .nil

/-! ## Statements -/

namespace Statement

/-- The keyword of a conflict policy. -/
theorem plain_policy (policy : ConflictPolicy) : Plain 0 0 policy.keyword.toList := by
  cases policy <;> decide

/-- Plain text is one statement if a semicolon ends it. -/
theorem redacts_plain {s : String} (h : Plain 0 0 s.toList) :
    Alike RedactsStatement (Except.ok (s ++ ";") : Except QueryError String) (.ok (s ++ ";")) :=
  .ok h.redacts.statement

theorem redacts_createTable {name : String} {columns : List ColumnDecl} (hname : IsWord name)
    (hcolumns : ∀ d ∈ columns, IsWord d.name) :
    Alike RedactsStatement (createTable name columns).toSql
      (createTable name columns).redact.toSql := by
  have hcreate : Plain 0 0 "CREATE TABLE IF NOT EXISTS ".toList := by decide
  have hopening : Plain 0 1 " (".toList := by decide
  have hsep : Plain 0 0 ", ".toList := by decide
  have hparts := (Redacts.intercalate hsep (by decide) (redacts_layoutParts hcolumns)).deepen 1
  refine .ok (Redacts.closed ?_)
  exact .plain_append ((hcreate.followedBy (hname.plain 0)).followedBy hopening) hparts

theorem redacts_addColumn {table : String} {column : ColumnDecl} (htable : IsWord table)
    (hcolumn : IsWord column.name) :
    Alike RedactsStatement (addColumn table column).toSql
      (addColumn table column).redact.toSql := by
  have halter : Plain 0 0 "ALTER TABLE ".toList := by decide
  have hadd : Plain 0 0 " ADD COLUMN ".toList := by decide
  refine .ok (Redacts.statement ?_)
  exact .plain_append ((halter.followedBy (htable.plain 0)).followedBy hadd)
    (ColumnDecl.redacts_toSql hcolumn true)

theorem redacts_insert {table : String} {columns : List String} (htable : IsWord table)
    (hcolumns : ∀ name ∈ columns, IsWord name) (values : List (Option Value))
    (policy : ConflictPolicy) :
    Alike RedactsStatement (insert table columns values policy).toSql
      (insert table columns values policy).redact.toSql := by
  have hinsert : Plain 0 0 "INSERT OR ".toList := by decide
  have hinto : Plain 0 0 " INTO ".toList := by decide
  have hopening : Plain 0 1 " (".toList := by decide
  -- The parentheses of the columns end where those of the values begin.
  have hvalues : Plain 1 1 ") VALUES (".toList := by decide
  have hsep : Plain 0 0 ", ".toList := by decide
  have htarget := ((hinsert.followedBy (plain_policy policy)).followedBy hinto).followedBy
    (htable.plain 0)
  have hhead := ((htarget.followedBy hopening).followedBy (plain_names hcolumns 1)).followedBy
    hvalues
  have hliterals : Redacts 1 1 (", ".intercalate (values.map Value.literal))
      (", ".intercalate ((values.map (·.map Value.redact)).map Value.literal)) := by
    rw [List.map_map]
    exact (Redacts.intercalate_map hsep (by decide) fun v _ => Value.redacts_literal v).deepen 1
  exact .ok (Redacts.plain_append hhead hliterals).closed

theorem redacts_createIndex {name table : String} {columns : List String} (hname : IsWord name)
    (htable : IsWord table) (hcolumns : ∀ name ∈ columns, IsWord name) :
    Alike RedactsStatement (createIndex name table columns).toSql
      (createIndex name table columns).redact.toSql := by
  have hcreate : Plain 0 0 "CREATE INDEX IF NOT EXISTS ".toList := by decide
  have hon : Plain 0 0 " ON ".toList := by decide
  have hopening : Plain 0 1 " (".toList := by decide
  have htarget := ((hcreate.followedBy (hname.plain 0)).followedBy hon).followedBy (htable.plain 0)
  have hbody := (htarget.followedBy hopening).followedBy (plain_names hcolumns 1)
  exact .ok hbody.redacts.closed

theorem redacts_copyRows {source target : String} {targetColumns sourceColumns : List String}
    (hsource : IsWord source) (htarget : IsWord target)
    (htargets : ∀ name ∈ targetColumns, IsWord name)
    (hsources : ∀ name ∈ sourceColumns, IsWord name) :
    Alike RedactsStatement (copyRows source target targetColumns sourceColumns).toSql
      (copyRows source target targetColumns sourceColumns).redact.toSql := by
  have hinsert : Plain 0 0 "INSERT INTO ".toList := by decide
  have hopening : Plain 0 1 " (".toList := by decide
  have hselect : Plain 1 0 ") SELECT ".toList := by decide
  have hfrom : Plain 0 0 " FROM ".toList := by decide
  have hinto := (hinsert.followedBy (htarget.plain 0)).followedBy hopening
  have hcopy := ((hinto.followedBy (plain_names htargets 1)).followedBy hselect).followedBy
    (plain_names hsources 0)
  exact redacts_plain ((hcopy.followedBy hfrom).followedBy (hsource.plain 0))

/-- Every statement on names and its redaction. -/
theorem redacts_toSql {s : Statement} (hnamed : ∀ name ∈ s.names, IsWord name)
    (hreadable : ∀ text, s ≠ .unreadable text) :
    Alike RedactsStatement s.toSql s.redact.toSql := by
  cases s with
  | query q => exact Query.redacts_toSql hnamed
  | createTable name columns =>
      obtain ⟨hname, hcolumns⟩ := List.forall_mem_cons.mp hnamed
      exact redacts_createTable hname fun d hd => hcolumns d.name (List.mem_map_of_mem hd)
  | createIndex name table columns =>
      obtain ⟨hname, hrest⟩ := List.forall_mem_cons.mp hnamed
      obtain ⟨htable, hcolumns⟩ := List.forall_mem_cons.mp hrest
      exact redacts_createIndex hname htable hcolumns
  | dropTable name =>
      have hdrop : Plain 0 0 "DROP TABLE IF EXISTS ".toList := by decide
      exact redacts_plain (hdrop.followedBy ((hnamed name (by simp [names])).plain 0))
  | renameTable old new =>
      have hold : IsWord old := hnamed old (by simp [names])
      have hnew : IsWord new := hnamed new (by simp [names])
      have halter : Plain 0 0 "ALTER TABLE ".toList := by decide
      have hrename : Plain 0 0 " RENAME TO ".toList := by decide
      exact redacts_plain (((halter.followedBy (hold.plain 0)).followedBy hrename).followedBy
        (hnew.plain 0))
  | addColumn table column =>
      exact redacts_addColumn (hnamed table (by simp [names]))
        (hnamed column.name (by simp [names]))
  | copyRows source target targetColumns sourceColumns =>
      obtain ⟨hnames, hsources⟩ := List.forall_mem_append.mp hnamed
      obtain ⟨hsource, htargets⟩ := List.forall_mem_cons.mp hnames
      obtain ⟨htarget, hcolumns⟩ := List.forall_mem_cons.mp htargets
      exact redacts_copyRows hsource htarget hcolumns hsources
  | insert table columns values policy =>
      obtain ⟨htable, hcolumns⟩ := List.forall_mem_cons.mp hnamed
      exact redacts_insert htable hcolumns values policy
  | «begin» => exact redacts_plain (by decide : Plain 0 0 "BEGIN".toList)
  | commit => exact redacts_plain (by decide : Plain 0 0 "COMMIT".toList)
  | rollback => exact redacts_plain (by decide : Plain 0 0 "ROLLBACK".toList)
  | setUserVersion version =>
      have hpragma : Plain 0 0 "PRAGMA user_version = ".toList := by decide
      exact redacts_plain (hpragma.followedBy (plain_toString_int version.toInt 0))
  | unreadable text => exact absurd rfl (hreadable text)

/-- The text of a statement on names is one statement. -/
theorem cuts_toSql {s : Statement} {text : String} (hnamed : ∀ name ∈ s.names, IsWord name)
    (hreadable : ∀ t, s ≠ .unreadable t) (htext : s.toSql = .ok text) :
    ∃ ps, Cuts text.toList ps ∧ OneStatement ps := by
  have h := redacts_toSql hnamed hreadable
  rw [htext] at h
  generalize s.redact.toSql = redacted at h
  cases h with
  | ok hboth => exact hboth.1

/-- A statement that is redacted like one that compiles on names compiles as well, and is the same
outside of literals. -/
theorem outside_of_redact_eq {s s' : Statement} {text : String}
    (hnamed : ∀ name ∈ s.names, IsWord name) (hreadable : ∀ t, s ≠ .unreadable t)
    (hredact : s'.redact = s.redact) (htext : s.toSql = .ok text) :
    ∃ text', s'.toSql = .ok text' ∧ outside? text' = outside? text := by
  have hnamed' : ∀ name ∈ s'.names, IsWord name := by
    rwa [← names_redact, hredact, names_redact]
  have hreadable' : ∀ t, s' ≠ .unreadable t := by
    rintro t rfl
    cases s <;> cases hredact
    exact hreadable t rfl
  have h := redacts_toSql hnamed hreadable
  have h' := redacts_toSql hnamed' hreadable'
  rw [hredact] at h'
  rw [htext] at h
  -- Both are the same as what they are redacted to.
  generalize s.redact.toSql = redacted at h h'
  cases h with
  | ok hboth =>
      generalize s'.toSql = text' at h'
      cases h' with
      | ok hboth' => exact ⟨_, rfl, hboth'.2.trans hboth.2.symm⟩

end Statement

namespace Script

/-- Texts that are one statement each, one on a line. -/
theorem cuts_lines {script : Script} {texts : List String}
    (hnamed : ∀ s ∈ script, ∀ name ∈ s.names, IsWord name)
    (hreadable : ∀ s ∈ script, ∀ t, s ≠ .unreadable t)
    (h : List.Forall₂ (fun s text => s.toSql = .ok text) script texts) :
    ∃ pss : List (List Piece), pss.length = script.length ∧ (∀ ps ∈ pss, OneStatement ps) ∧
      Cuts ("\n".intercalate texts).toList ([.char '\n'].intercalate pss) := by
  induction h with
  | nil => exact ⟨[], rfl, by simp, cuts_plain (by simp)⟩
  | @cons s text script texts hs hrest ih =>
      obtain ⟨hnamed, hnames⟩ := List.forall_mem_cons.mp hnamed
      obtain ⟨hreadable, hreads⟩ := List.forall_mem_cons.mp hreadable
      obtain ⟨pss, hlength, hone, hcuts⟩ := ih hnames hreads
      obtain ⟨ps, hps, hstatement⟩ := Statement.cuts_toSql hnamed hreadable hs
      have hall : ∀ qs ∈ ps :: pss, OneStatement qs := List.forall_mem_cons.mpr ⟨hstatement, hone⟩
      refine ⟨ps :: pss, by simp [hlength], hall, ?_⟩
      cases hrest with
      | nil =>
          have hpss : pss = [] := List.length_eq_zero_iff.mp hlength
          subst hpss
          simpa using hps
      | @cons s' text' script texts hs' hrest' =>
          -- The newline keeps the quotes of two statements apart.
          have hnewline : '\'' ∉ "\n".toList := by decide
          obtain ⟨ps', pss', rfl⟩ : ∃ ps' pss', pss = ps' :: pss' :=
            List.exists_cons_of_length_eq_add_one hlength
          have hlines := Cuts.plain_append hnewline hcuts
          rw [String.intercalate_cons_cons, String.append_assoc, String.toList_append,
            String.toList_append, List.intercalate_cons_cons, List.append_assoc]
          exact hps.append hlines (by simp)

end Script

/-- No value breaks out of its place.  Every statement on names that compiles is one statement
outside of its literals, and with other texts in the place of its texts it is the same there; the
script that copies and renames a table is three statements, one on a line. -/
theorem Statement.no_injection :
    (∀ (s : Statement) (text : String), (∀ name ∈ s.names, IsWord name) →
      (∀ t, s ≠ .unreadable t) → s.toSql = .ok text →
        (∃ ps, pieces? text.toList = some ps ∧ OneStatement ps) ∧
          ∀ s' : Statement, s'.redact = s.redact →
            ∃ text', s'.toSql = .ok text' ∧ outside? text' = outside? text) ∧
      ∀ (table temp : String) (newColumns oldColumns : List String),
        (∀ name ∈ table :: temp :: newColumns ++ oldColumns, IsWord name) →
          ∃ text first second third,
            (copyAndRename table temp newColumns oldColumns).toSql = .ok text ∧
              pieces? text.toList = some (first ++ .char '\n' :: (second ++ .char '\n' :: third)) ∧
              OneStatement first ∧ OneStatement second ∧ OneStatement third := by
  constructor
  · intro s text hnamed hreadable htext
    constructor
    · obtain ⟨ps, hcuts, hone⟩ := cuts_toSql hnamed hreadable htext
      exact ⟨ps, hcuts.eq_some, hone⟩
    · exact fun s' hredact => outside_of_redact_eq hnamed hreadable hredact htext
  · intro table temp newColumns oldColumns hnamed
    have htable : IsWord table := hnamed table (by simp)
    have htemp : IsWord temp := hnamed temp (by simp)
    have hnames : ∀ s ∈ copyAndRename table temp newColumns oldColumns, ∀ name ∈ s.names,
        IsWord name := by
      refine List.forall_mem_cons.mpr ⟨hnamed, List.forall_mem_cons.mpr ⟨?_, ?_⟩⟩
      · exact List.forall_mem_singleton.mpr htable
      · refine List.forall_mem_singleton.mpr ?_
        exact List.forall_mem_cons.mpr ⟨htemp, List.forall_mem_singleton.mpr htable⟩
    have hreadable : ∀ s ∈ copyAndRename table temp newColumns oldColumns, ∀ t,
        s ≠ .unreadable t := by
      rintro s hs t rfl
      simp [copyAndRename] at hs
    obtain ⟨pss, hlength, hone, hcuts⟩ :=
      Script.cuts_lines hnames hreadable (mapM_eq_ok_iff.mp rfl)
    obtain ⟨first, second, third, rfl⟩ := List.length_eq_three.mp hlength
    refine ⟨_, first, second, third, rfl, ?_, hone _ (by simp), hone _ (by simp), hone _ (by simp)⟩
    rw [hcuts.eq_some]
    simp [List.intercalate_cons_cons]

/-- A text that would end the insert if its quote were not doubled, and the empty text in its
place. -/
theorem Statement.no_injection_quote :
    let columns := ["id", "note"]
    let attack := insert "log" columns [some (.integer (-1)), some (.text "'); DROP TABLE log; --")]
      .ignore
    let blank := insert "log" columns [some (.integer (-1)), some (.text "")] .ignore
    (∃ text ps text', attack.toSql = .ok text ∧ pieces? text.toList = some ps ∧ OneStatement ps ∧
        blank.toSql = .ok text' ∧ outside? text' = outside? text) ∧
      ∃ text first second third, (copyAndRename "log" "log_new" columns columns).toSql = .ok text ∧
        pieces? text.toList = some (first ++ .char '\n' :: (second ++ .char '\n' :: third)) ∧
        OneStatement first ∧ OneStatement second ∧ OneStatement third := by
  intro columns attack blank
  have hnamed : ∀ name ∈ attack.names, IsWord name := by decide
  have hreadable : ∀ t, attack ≠ .unreadable t := by
    intro t
    simp [attack]
  obtain ⟨hstatement, hscript⟩ := no_injection
  obtain ⟨⟨ps, hps, hone⟩, hblank⟩ := hstatement attack _ hnamed hreadable rfl
  obtain ⟨text', htext', houtside⟩ := hblank blank rfl
  exact ⟨⟨_, ps, text', rfl, hps, hone, htext', houtside⟩,
    hscript "log" "log_new" columns columns (by decide)⟩

end SqlStore
