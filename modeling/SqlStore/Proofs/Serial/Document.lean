/-
# Documents are read back unchanged

Values, conditions, statements, column declarations and configurations are written as JSON.  Each
kind of document has its own tree, restored from the trees of its parts; a text is read as the
document that it was written for.

* `Value.restores`, `ConditionSet.restores`, ... : one statement for each type, along its
  constructors;
* `Document` : what is written and read, with its kind;
* `Document.decode?_compact` : every document is read from its text as it was.
-/
import SqlStore.Config.Basic
import SqlStore.Serial.Query
import SqlStore.Proofs.Json.Typed

namespace SqlStore

/-! ## Reals -/

/-- The decimal text of a finite real is read as that real. -/
def Double.ReadsBack (x : Double) : Prop :=
  x.isFinite = true ∧ (Json.number (x.text Json.realLayout)).double? = some x

instance (x : Double) : Decidable x.ReadsBack := inferInstanceAs (Decidable (_ ∧ _))

mutual

/-- The reals in a value. -/
def Value.reals : Value → List Double
  | .real x => [x]
  | .list items => listReals items
  | _ => []

/-- The reals in several values. -/
def Value.listReals : List Value → List Double
  | [] => []
  | v :: vs => v.reals ++ listReals vs

end

/-- The reals in a condition. -/
def Condition.reals (c : Condition) : List Double := c.value.toList.flatMap Value.reals

/-- The reals in a condition set. -/
def ConditionSet.reals (set : ConditionSet) : List Double := set.leaves.flatMap Condition.reals

/-- The reals in an update, assigned or compared with. -/
def Update.reals (u : Update) : List Double :=
  u.replace.flatMap (fun a => a.value.toList.flatMap Value.reals) ++ u.conditions.reals

/-- The reals in an attribute. -/
def ColumnAttribute.reals : ColumnAttribute → List Double
  | default value => value.reals
  | _ => []

open Json

/-! ## Values and conditions -/

/-- A real that reads back is restored. -/
theorem restores_real {x : Double} (h : x.ReadsBack) :
    Restores (Json.real x) (fun _ => double?) x := by
  rw [Json.real, if_pos h.1]
  refine ⟨?_, fun _ _ => h.2⟩
  rw [Written]
  exact JsonLexer.isNumber_real realLayout x

theorem Value.listToJson_eq_map (vs : List Value) : listToJson vs = vs.map toJson := by
  induction vs with
  | nil => rfl
  | cons v vs ih => rw [listToJson, ih, List.map_cons]

mutual

/-- The tree of a value restores it, if its reals read back. -/
theorem Value.restores : ∀ v : Value, (∀ x ∈ v.reals, x.ReadsBack) →
    Restores v.toJson Value.ofJson? v
  | .integer n, _ => restores_tagged integer (restores_int64 n) fun _ => rfl
  | .real x, h => by
      rw [reals] at h
      exact restores_tagged real (restores_real (h x List.mem_cons_self)) fun _ => rfl
  | .text s, _ => restores_tagged text (restores_text s) fun _ => rfl
  | .boolean b, _ => restores_tagged boolean (restores_bool b) fun _ => rfl
  | .list items, h => by
      rw [reals] at h
      rw [toJson, listToJson_eq_map]
      have hitems := restores_list (Value.restores_items items h)
      refine restores_tagged list hitems fun k => ?_
      cases k <;> rfl

/-- The trees of several values restore them. -/
theorem Value.restores_items : ∀ vs : List Value, (∀ x ∈ Value.listReals vs, x.ReadsBack) →
    ∀ v ∈ vs, Restores v.toJson Value.ofJson? v
  | [], _ => nofun
  | v :: vs, h => by
      rw [listReals] at h
      rw [List.forall_mem_append] at h
      exact List.forall_mem_cons.mpr ⟨Value.restores v h.1, Value.restores_items vs h.2⟩

end

/-- A value that may be absent is restored. -/
theorem Value.restores_option {v : Option Value}
    (h : ∀ x ∈ v.toList.flatMap Value.reals, x.ReadsBack) :
    Restores (ofOption Value.toJson v) (fun n => option? (Value.ofJson? n)) v := by
  refine Json.restores_option (fun a ha => a.restores fun x hx => h x ?_) fun a => ?_
  · rw [Option.mem_def.mp ha]
    simpa using hx
  · cases a <;> rw [toJson] <;> nofun

/-- An operator is restored. -/
theorem Operator.restores (op : Operator) : Restores op.toJson Operator.ofJson? op := by
  have horEqual (b : Bool) : Restores (.record [("or_equal", .bool b)]) Operator.orEqual? b := by
    have hb := restores_bool b
    refine restores_record (fun _ _ => rfl) rfl rfl ?_ fun k hk => ?_
    · simp [hb.written]
    · rw [List.forall_mem_cons] at hk
      exact required_eq_some rfl hb hk.1
  cases op with
  | greaterThan orEqual => exact restores_tagged greaterThan (horEqual orEqual) fun _ => rfl
  | lessThan orEqual => exact restores_tagged lessThan (horEqual orEqual) fun _ => rfl
  | equal | notEqual | inList | notInList | isNull | like =>
      exact (restores_choice rfl).of_eq fun n => by cases n <;> rfl

/-- The name of a table that may be absent is restored. -/
theorem restores_table (table : Option String) :
    Restores (ofOption .text table) (fun _ => option? text?) table :=
  Json.restores_option (fun s _ => restores_text s) nofun

/-- A condition is restored, if its reals read back. -/
theorem Condition.restores {c : Condition} (h : ∀ x ∈ c.reals, x.ReadsBack) :
    Restores c.toJson Condition.ofJson? c := by
  have htable := restores_table c.table
  have hkey := restores_text c.key
  have hoperation := c.operation.restores
  have hvalue := Value.restores_option h
  refine restores_record (fun _ _ => rfl) rfl rfl ?_ fun k hk => ?_
  · simp [htable.written, hkey.written, hoperation.written, hvalue.written]
  · simp only [List.forall_mem_cons] at hk
    obtain ⟨h1, h2, h3, h4, -⟩ := hk
    rw [optional_eq_some rfl htable h1, required_eq_some rfl hkey h2,
      required_eq_some rfl hoperation h3, optional_eq_some rfl hvalue h4]
    rfl

/-- Reads the content of a compound set. -/
def ConditionSet.compound? (op : Connective) : Nat → Json → Option ConditionSet
  | depth + 1, v => do
      let f ← v.fields? ["left", "right", "capsuled"]
      return compound op (← f.required "left" (ofJson? depth))
        (← f.required "right" (ofJson? depth)) (← f.required "capsuled" Json.bool?)
  | _, _ => none

/-- A condition set is restored, if its reals read back. -/
theorem ConditionSet.restores {set : ConditionSet} (h : ∀ x ∈ set.reals, x.ReadsBack) :
    Restores set.toJson ConditionSet.ofJson? set := by
  induction set with
  | empty => exact (restores_choice rfl).of_eq fun n => by cases n <;> rfl
  | single c =>
      have hc : Restores c.toJson Condition.ofJson? c :=
        Condition.restores (by simpa [reals, leaves] using h)
      exact restores_tagged single hc fun _ => rfl
  | compound op left right capsuled ihl ihr =>
      rw [reals, leaves, List.flatMap_append, List.forall_mem_append] at h
      have hleft := ihl h.1
      have hright := ihr h.2
      have hcapsuled := restores_bool capsuled
      have hcontent : Restores (.record [("left", left.toJson), ("right", right.toJson),
          ("capsuled", .bool capsuled)]) (compound? op) (compound op left right capsuled) := by
        refine restores_record (fun _ _ => rfl) rfl rfl ?_ fun k hk => ?_
        · simp [hleft.written, hright.written, hcapsuled.written]
        · simp only [List.forall_mem_cons] at hk
          obtain ⟨h1, h2, h3, -⟩ := hk
          rw [required_eq_some rfl hleft h1, required_eq_some rfl hright h2,
            required_eq_some rfl hcapsuled h3]
          rfl
      refine restores_tagged id hcontent fun k => ?_
      rw [Option.map_id]
      cases op <;> cases k <;> rfl

/-! ## Statements -/

/-- A list of strings is restored. -/
theorem restores_texts (items : List String) : Restores (texts items) texts? items :=
  restores_list fun s _ => restores_text s

/-- A selection is restored. -/
theorem Selection.restores (s : Selection) : Restores s.toJson Selection.ofJson? s := by
  cases s with
  | all => exact (restores_choice rfl).of_eq fun n => by cases n <;> rfl
  | columns names => exact restores_tagged columns (restores_texts names) fun _ => rfl

/-- A limit is restored. -/
theorem restores_limit (limit : Option UInt64) :
    Restores (limitToJson limit) (fun _ => option? uint64?) limit :=
  Json.restores_option (fun n _ => restores_uint64 n) nofun

/-- A filter is restored, if the reals in its conditions read back. -/
theorem Filter.restores {f : Filter} (h : ∀ x ∈ f.conditions.reals, x.ReadsBack) :
    Restores f.toJson Filter.ofJson? f := by
  have hconditions := ConditionSet.restores h
  have hascending := restores_texts f.ascending
  have hdescending := restores_texts f.descending
  have hlimit := restores_limit f.limit
  refine restores_record (fun _ _ => rfl) rfl rfl ?_ fun k hk => ?_
  · simp [hconditions.written, hascending.written, hdescending.written, hlimit.written]
  · simp only [List.forall_mem_cons] at hk
    obtain ⟨h1, h2, h3, h4, -⟩ := hk
    rw [required_eq_some rfl hconditions h1, required_eq_some rfl hascending h2,
      required_eq_some rfl hdescending h3, optional_eq_some rfl hlimit h4]
    rfl

/-- A select is restored, if its reals read back. -/
theorem Select.restores {s : Select} (h : ∀ x ∈ s.filter.conditions.reals, x.ReadsBack) :
    Restores s.toJson Select.ofJson? s := by
  have htable := restores_text s.table
  have hselection := s.selection.restores
  have hfilter := Filter.restores h
  refine restores_record (fun _ _ => rfl) rfl rfl ?_ fun k hk => ?_
  · simp [htable.written, hselection.written, hfilter.written]
  · simp only [List.forall_mem_cons] at hk
    obtain ⟨h1, h2, h3, -⟩ := hk
    rw [required_eq_some rfl htable h1, required_eq_some rfl hselection h2,
      required_eq_some rfl hfilter h3]
    rfl

/-- An assignment is restored, if its reals read back. -/
theorem Assignment.restores {a : Assignment}
    (h : ∀ x ∈ a.value.toList.flatMap Value.reals, x.ReadsBack) :
    Restores a.toJson Assignment.ofJson? a := by
  have hcolumn := restores_text a.column
  have hvalue := Value.restores_option h
  refine restores_record (fun _ _ => rfl) rfl rfl ?_ fun k hk => ?_
  · simp [hcolumn.written, hvalue.written]
  · simp only [List.forall_mem_cons] at hk
    obtain ⟨h1, h2, -⟩ := hk
    rw [required_eq_some rfl hcolumn h1, optional_eq_some rfl hvalue h2]
    rfl

/-- An update is restored, if its reals read back. -/
theorem Update.restores {u : Update} (h : ∀ x ∈ u.reals, x.ReadsBack) :
    Restores u.toJson Update.ofJson? u := by
  rw [reals, List.forall_mem_append] at h
  have htable := restores_text u.table
  have hreplace := restores_list fun a (ha : a ∈ u.replace) => Assignment.restores fun x hx =>
    h.1 x (List.mem_flatMap.mpr ⟨a, ha, hx⟩)
  have hconditions := ConditionSet.restores h.2
  refine restores_record (fun _ _ => rfl) rfl rfl ?_ fun k hk => ?_
  · simp [htable.written, hreplace.written, hconditions.written]
  · simp only [List.forall_mem_cons] at hk
    obtain ⟨h1, h2, h3, -⟩ := hk
    rw [required_eq_some rfl htable h1, required_eq_some rfl hreplace h2,
      required_eq_some rfl hconditions h3]
    rfl

/-- A delete is restored, if its reals read back. -/
theorem Delete.restores {d : Delete} (h : ∀ x ∈ d.conditions.reals, x.ReadsBack) :
    Restores d.toJson Delete.ofJson? d := by
  have htable := restores_text d.table
  have hconditions := ConditionSet.restores h
  refine restores_record (fun _ _ => rfl) rfl rfl ?_ fun k hk => ?_
  · simp [htable.written, hconditions.written]
  · simp only [List.forall_mem_cons] at hk
    obtain ⟨h1, h2, -⟩ := hk
    rw [required_eq_some rfl htable h1, required_eq_some rfl hconditions h2]
    rfl

/-- The columns wanted from one table are restored. -/
theorem JoinSelection.restores (s : JoinSelection) :
    Restores s.toJson JoinSelection.ofJson? s := by
  have htable := restores_text s.table
  have hselection := s.selection.restores
  refine restores_record (fun _ _ => rfl) rfl rfl ?_ fun k hk => ?_
  · simp [htable.written, hselection.written]
  · simp only [List.forall_mem_cons] at hk
    obtain ⟨h1, h2, -⟩ := hk
    rw [required_eq_some rfl htable h1, required_eq_some rfl hselection h2]
    rfl

/-- A joined table is restored. -/
theorem JoinOn.restores (j : JoinOn) : Restores j.toJson JoinOn.ofJson? j := by
  have hkind : Restores j.kind.toJson JoinKind.ofJson? j.kind := by
    cases j.kind <;> exact restores_choice rfl
  have htable := restores_text j.table
  have hleft := restores_text j.left
  have hright := restores_text j.right
  refine restores_record (fun _ _ => rfl) rfl rfl ?_ fun k hk => ?_
  · simp [hkind.written, htable.written, hleft.written, hright.written]
  · simp only [List.forall_mem_cons] at hk
    obtain ⟨h1, h2, h3, h4, -⟩ := hk
    rw [required_eq_some rfl hkind h1, required_eq_some rfl htable h2,
      required_eq_some rfl hleft h3, required_eq_some rfl hright h4]
    rfl

/-- A column of a table is restored. -/
theorem ColumnInTable.restores (c : ColumnInTable) :
    Restores c.toJson ColumnInTable.ofJson? c := by
  have htable := restores_text c.table
  have hcolumn := restores_text c.column
  refine restores_record (fun _ _ => rfl) rfl rfl ?_ fun k hk => ?_
  · simp [htable.written, hcolumn.written]
  · simp only [List.forall_mem_cons] at hk
    obtain ⟨h1, h2, -⟩ := hk
    rw [required_eq_some rfl htable h1, required_eq_some rfl hcolumn h2]
    rfl

/-- A join is restored, if its reals read back. -/
theorem Join.restores {j : Join} (h : ∀ x ∈ j.conditions.reals, x.ReadsBack) :
    Restores j.toJson Join.ofJson? j := by
  have hbase := restores_text j.base
  have hselections := restores_list fun s (_ : s ∈ j.selections) => s.restores
  have hjoins := restores_list fun o (_ : o ∈ j.joins) => o.restores
  have hconditions := ConditionSet.restores h
  have hascending := restores_list fun c (_ : c ∈ j.ascending) => c.restores
  have hdescending := restores_list fun c (_ : c ∈ j.descending) => c.restores
  have hlimit := restores_limit j.limit
  refine restores_record (fun _ _ => rfl) rfl rfl ?_ fun k hk => ?_
  · simp [hbase.written, hselections.written, hjoins.written, hconditions.written,
      hascending.written, hdescending.written, hlimit.written]
  · simp only [List.forall_mem_cons] at hk
    obtain ⟨h1, h2, h3, h4, h5, h6, h7, -⟩ := hk
    rw [required_eq_some rfl hbase h1, required_eq_some rfl hselections h2,
      required_eq_some rfl hjoins h3, required_eq_some rfl hconditions h4,
      required_eq_some rfl hascending h5, required_eq_some rfl hdescending h6,
      optional_eq_some rfl hlimit h7]
    rfl

/-! ## Columns and configurations -/

/-- A kind of data is restored. -/
theorem DataKind.restores (k : DataKind) : Restores k.toJson DataKind.ofJson? k := by
  cases k with
  | char size => exact restores_tagged char (restores_uint64 size) fun _ => rfl
  | integer | text | real => exact (restores_choice rfl).of_eq fun n => by cases n <;> rfl

/-- Reads the content of a primary key. -/
def ColumnAttribute.primaryKey? : Nat → Json → Option ColumnAttribute
  | _ + 1, v => do
      let f ← v.fields? ["auto_increment"]
      return primaryKey (← f.required "auto_increment" Json.bool?)
  | _, _ => none

/-- An attribute is restored, if its reals read back. -/
theorem ColumnAttribute.restores {a : ColumnAttribute} (h : ∀ x ∈ a.reals, x.ReadsBack) :
    Restores a.toJson ColumnAttribute.ofJson? a := by
  cases a with
  | notNull | unique =>
      exact (restores_choice rfl).of_eq fun n => by rcases n with _ | _ | n <;> rfl
  | default value =>
      exact restores_tagged default (value.restores h) fun k => by cases k <;> rfl
  | primaryKey autoIncrement =>
      have hauto := restores_bool autoIncrement
      have hcontent : Restores (.record [("auto_increment", .bool autoIncrement)]) primaryKey?
          (primaryKey autoIncrement) := by
        refine restores_record (fun _ _ => rfl) rfl rfl ?_ fun k hk => ?_
        · simp [hauto.written]
        · rw [List.forall_mem_cons] at hk
          rw [required_eq_some rfl hauto hk.1]
          rfl
      refine restores_tagged id hcontent fun k => ?_
      rw [Option.map_id]
      cases k <;> rfl

/-- The reals in a column declaration. -/
def ColumnDecl.reals (d : ColumnDecl) : List Double := d.attributes.flatMap ColumnAttribute.reals

/-- A column declaration is restored, if its reals read back. -/
theorem ColumnDecl.restores {d : ColumnDecl} (h : ∀ x ∈ d.reals, x.ReadsBack) :
    Restores d.toJson ColumnDecl.ofJson? d := by
  have hname := restores_text d.name
  have hkind := d.kind.restores
  have hattributes := restores_list fun a (ha : a ∈ d.attributes) =>
    ColumnAttribute.restores fun x hx => h x (List.mem_flatMap.mpr ⟨a, ha, hx⟩)
  refine restores_record (fun _ _ => rfl) rfl rfl ?_ fun k hk => ?_
  · simp [hname.written, hkind.written, hattributes.written]
  · simp only [List.forall_mem_cons] at hk
    obtain ⟨h1, h2, h3, -⟩ := hk
    rw [required_eq_some rfl hname h1, required_eq_some rfl hkind h2,
      required_eq_some rfl hattributes h3]
    rfl

/-- A journal mode is restored. -/
theorem JournalMode.restores (m : JournalMode) : Restores m.toJson JournalMode.ofJson? m := by
  cases m <;> exact restores_choice (by decide)

/-- A configuration is restored. -/
theorem EngineConfig.restores (c : EngineConfig) : Restores c.toJson EngineConfig.ofJson? c := by
  have hpath := restores_text c.path
  have hreadOnly := restores_bool c.readOnly
  have hjournalMode : Restores (ofOption JournalMode.toJson c.journalMode)
      (fun n => option? (JournalMode.ofJson? n)) c.journalMode :=
    Json.restores_option (fun m _ => m.restores) nofun
  have haccess := restores_text c.accessLane
  have hmigration := restores_text c.migrationLane
  refine restores_record (fun _ _ => rfl) rfl rfl ?_ fun k hk => ?_
  · simp [hpath.written, hreadOnly.written, hjournalMode.written, haccess.written,
      hmigration.written]
  · simp only [List.forall_mem_cons] at hk
    obtain ⟨h1, h2, h3, h4, h5, -⟩ := hk
    rw [required_eq_some rfl hpath h1, defaulted_eq_some rfl hreadOnly h2,
      defaulted_eq_some rfl hjournalMode h3, defaulted_eq_some rfl haccess h4,
      defaulted_eq_some rfl hmigration h5]
    rfl

/-! ## Documents -/

/-- The types that are written as JSON. -/
inductive DocumentKind
  | value
  | condition
  | conditions
  | select
  | update
  | delete
  | join
  | column
  | config
deriving DecidableEq

/-- What is written as JSON. -/
inductive Document
  | value (v : Value)
  | condition (c : Condition)
  | conditions (set : ConditionSet)
  | select (s : Select)
  | update (u : Update)
  | delete (d : Delete)
  | join (j : Join)
  | column (d : ColumnDecl)
  | config (c : EngineConfig)

namespace Document

/-- The type of a document. -/
def kind : Document → DocumentKind
  | value _ => .value
  | condition _ => .condition
  | conditions _ => .conditions
  | select _ => .select
  | update _ => .update
  | delete _ => .delete
  | join _ => .join
  | column _ => .column
  | config _ => .config

/-- The tree of a document. -/
def toJson : Document → Json
  | value v => v.toJson
  | condition c => c.toJson
  | conditions set => set.toJson
  | select s => s.toJson
  | update u => u.toJson
  | delete d => d.toJson
  | join j => j.toJson
  | column d => d.toJson
  | config c => c.toJson

/-- Reads a document of a type. -/
def ofJson? (kind : DocumentKind) (depth : Nat) (v : Json) : Option Document :=
  match kind with
  | .value => (Value.ofJson? depth v).map value
  | .condition => (Condition.ofJson? depth v).map condition
  | .conditions => (ConditionSet.ofJson? depth v).map conditions
  | .select => (Select.ofJson? depth v).map select
  | .update => (Update.ofJson? depth v).map update
  | .delete => (Delete.ofJson? depth v).map delete
  | .join => (Join.ofJson? depth v).map join
  | .column => (ColumnDecl.ofJson? depth v).map column
  | .config => (EngineConfig.ofJson? depth v).map config

/-- The reals in a document. -/
def reals : Document → List Double
  | value v => v.reals
  | condition c => c.reals
  | conditions set => set.reals
  | select s => s.filter.conditions.reals
  | update u => u.reals
  | delete d => d.conditions.reals
  | join j => j.conditions.reals
  | column d => d.reals
  | config _ => []

/-- The SQL of a document, if documents of its type have any.  A column is declared with its key or
without. -/
def toSql? (inlineKey : Bool) : Document → Option (Except QueryError String)
  | value v => some (.ok v.toSql)
  | condition c => some c.toSql
  | conditions set => some set.toSql
  | select s => some s.toSql
  | update u => some u.toSql
  | delete d => some d.toSql
  | join j => some j.toSql
  | column d => some (.ok (d.toSql inlineKey))
  | config _ => none

/-- What restores the content of a document restores the document. -/
theorem restores_of_content {α : Type} {tree : Json} {read : Nat → Json → Option α} {a : α}
    (make : α → Document) (h : Restores tree read a) :
    Restores tree (fun n v => (read n v).map make) (make a) :=
  ⟨h.written, fun n hn => by rw [h.reads n hn, Option.map_some]⟩

/-- A document is restored, if its reals read back. -/
theorem restores {d : Document} (h : ∀ x ∈ d.reals, x.ReadsBack) :
    Restores d.toJson (ofJson? d.kind) d := by
  cases d with
  | value v => exact restores_of_content value (v.restores h)
  | condition c => exact restores_of_content condition (Condition.restores h)
  | conditions set => exact restores_of_content conditions (ConditionSet.restores h)
  | select s => exact restores_of_content select (Select.restores h)
  | update u => exact restores_of_content update (Update.restores h)
  | delete d => exact restores_of_content delete (Delete.restores h)
  | join j => exact restores_of_content join (Join.restores h)
  | column d => exact restores_of_content column (ColumnDecl.restores h)
  | config c => exact restores_of_content config c.restores

/-- A document whose reals read back and which is not nested too deeply is read from its text as it
was written, so that it compiles to the same text or is refused with the same error. -/
theorem decode?_compact (d : Document) (hreals : ∀ x ∈ d.reals, x.ReadsBack)
    (hdepth : d.toJson.depth ≤ nestingLimit) :
    decode? (ofJson? d.kind) d.toJson.compact = some d ∧
      ∀ inlineKey, (decode? (ofJson? d.kind) d.toJson.compact).map (toSql? inlineKey)
        = some (d.toSql? inlineKey) := by
  have hread := (restores hreals).decode? hdepth
  exact ⟨hread, fun inlineKey => by rw [hread, Option.map_some]⟩

/-- A select with a quote, a line break, a capsuled set, a nested list, a real and an absent
operand. -/
theorem decode?_compact_select :
    let set := ((ConditionSet.single ⟨none, "name", .equal, some (.text "it's \"x\"\n")⟩).or
        (.single ⟨some "pets", "age", .greaterThan true, some (.real ⟨0x3ff8000000000000⟩)⟩)).and
      (.single ⟨none, "kind", .inList, some (.list [.list [.boolean true], .integer (-7)])⟩)
    let s : Select := ⟨"pets", .columns ["name"], ⟨set, ["age"], [], some 4⟩⟩
    (∀ x ∈ (select s).reals, x.ReadsBack) ∧ (select s).toJson.depth ≤ nestingLimit ∧
      decode? (ofJson? .select) (select s).toJson.compact = some (select s) := by
  intro set s
  have hreals : ∀ x ∈ (select s).reals, x.ReadsBack := by decide +kernel
  have hdepth : (select s).toJson.depth ≤ nestingLimit := by decide +kernel
  exact ⟨hreals, hdepth, (decode?_compact (select s) hreals hdepth).1⟩

end Document

end SqlStore
