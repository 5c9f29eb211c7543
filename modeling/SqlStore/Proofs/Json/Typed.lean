/-
# Trees that are read as what they were written for

A tree restores a value when its text can be written and every reader that may enter deeply enough
finds the value in it.  Scalars, lists, optional values and records are restored part by part.

* `Json.depth` : how deep the arrays and objects of a tree are nested;
* `Json.Restores`, `Json.Restores.decode?` : the text of such a tree is read as the value;
* `Json.fields?_record` : the fields that are found in a record.
-/
import SqlStore.Json.Decode
import SqlStore.Proofs.Json.Reading

namespace SqlStore

namespace Json

/-! ## Depth -/

mutual

/-- The number of arrays and objects around the innermost part of a tree. -/
def depth : Json → Nat
  | null | bool _ | number _ | string _ => 0
  | array items => itemsDepth items + 1
  | object members => membersDepth members + 1

/-- The depth of the deepest item. -/
def itemsDepth : List Json → Nat
  | [] => 0
  | v :: rest => max v.depth (itemsDepth rest)

/-- The depth of the deepest member. -/
def membersDepth : List (Option String × Json) → Nat
  | [] => 0
  | (_, v) :: rest => max v.depth (membersDepth rest)

end

theorem itemsDepth_le_iff {items : List Json} {n : Nat} :
    itemsDepth items ≤ n ↔ ∀ v ∈ items, v.depth ≤ n := by
  induction items with
  | nil => simp [itemsDepth]
  | cons v rest ih => rw [itemsDepth, Nat.max_le, ih, List.forall_mem_cons]

theorem membersDepth_le_iff {members : List (String × Json)} {n : Nat} :
    membersDepth (members.map fun m => (some m.1, m.2)) ≤ n ↔ ∀ m ∈ members, m.2.depth ≤ n := by
  induction members with
  | nil => simp [membersDepth]
  | cons m rest ih => rw [List.map_cons, membersDepth, Nat.max_le, ih, List.forall_mem_cons]

/-- The items of an array lie one deeper than the array. -/
theorem depth_array_le {items : List Json} {n : Nat} (h : (array items).depth ≤ n) :
    ∃ k, n = k + 1 ∧ ∀ v ∈ items, v.depth ≤ k := by
  rw [depth] at h
  exact ⟨n - 1, by omega, itemsDepth_le_iff.mp (by omega)⟩

/-- The fields of a record lie one deeper than the record. -/
theorem depth_record_le {members : List (String × Json)} {n : Nat}
    (h : (record members).depth ≤ n) : ∃ k, n = k + 1 ∧ ∀ m ∈ members, m.2.depth ≤ k := by
  rw [record, depth] at h
  exact ⟨n - 1, by omega, membersDepth_le_iff.mp (by omega)⟩

/-- The content of a tag lies one deeper than the tag. -/
theorem depth_tagged_le {tag : String} {content : Json} {n : Nat}
    (h : (tagged tag content).depth ≤ n) : ∃ k, n = k + 1 ∧ content.depth ≤ k := by
  obtain ⟨k, hk, hcontent⟩ := depth_record_le h
  exact ⟨k, hk, hcontent _ List.mem_cons_self⟩

/-! ## Writing -/

theorem itemsWritten_iff {items : List Json} : ItemsWritten items ↔ ∀ v ∈ items, v.Written := by
  induction items with
  | nil => simp [ItemsWritten]
  | cons v rest ih => simp [ItemsWritten, ih]

/-- An array is written properly if its items are. -/
theorem written_array {items : List Json} (h : ∀ v ∈ items, v.Written) : (array items).Written := by
  rw [Written]
  exact itemsWritten_iff.mpr h

/-- A record is written properly if its fields are. -/
theorem written_record {members : List (String × Json)} (h : ∀ m ∈ members, m.2.Written) :
    (record members).Written := by
  rw [record, Written]
  induction members with
  | nil => simp [MembersWritten]
  | cons m rest ih =>
      rw [List.map_cons, MembersWritten]
      exact ⟨rfl, h m List.mem_cons_self, ih fun v hv => h v (List.mem_cons_of_mem m hv)⟩

theorem written_text (s : String) : (text s).Written := by
  rw [text, Written]
  rfl

theorem written_integer (n : Int) : (integer n).Written := by
  rw [integer, Written]
  exact JsonLexer.isNumber_integer n

/-! ## Restoring -/

/-- The tree can be written, and a reader that may enter as deep as it goes finds the value. -/
structure Restores {α : Type} (tree : Json) (read : Nat → Json → Option α) (a : α) : Prop where
  written : tree.Written
  reads : ∀ n, tree.depth ≤ n → read n tree = some a

/-- The text of such a tree is read as the value, unless it is nested too deeply. -/
theorem Restores.decode? {α : Type} {tree : Json} {read : Nat → Json → Option α} {a : α}
    (h : Restores tree read a) (hdepth : tree.depth ≤ nestingLimit) :
    Json.decode? read tree.compact = some a := by
  rw [Json.decode?, parse_compact h.written, Option.bind_some]
  exact h.reads nestingLimit hdepth

theorem restores_text (s : String) : Restores (text s) (fun _ => text?) s :=
  ⟨written_text s, fun _ _ => rfl⟩

theorem restores_bool (b : Bool) : Restores (bool b) (fun _ => bool?) b :=
  ⟨by rw [Written]; trivial, fun _ _ => rfl⟩

/-- An integer between the bounds is read as itself. -/
theorem integer?_integer {low high n : Int} (hlow : low ≤ n) (hhigh : n < high)
    (hsigned : -0x8000000000000000 ≤ low) (hunsigned : high ≤ UInt64.size) :
    (integer n).integer? low high = some n := by
  rw [integer, integer?, JsonNumber.ofLexeme_toString (by omega) (by omega)]
  exact if_pos ⟨hlow, hhigh⟩

theorem restores_int64 (n : Int64) : Restores (integer n.toInt) (fun _ => int64?) n := by
  refine ⟨written_integer _, fun _ _ => ?_⟩
  have hlow := n.le_toInt
  have hhigh := n.toInt_lt
  rw [int64?, integer?_integer (by omega) (by omega) (by omega) (by decide), Option.map_some,
    Int64.ofInt_toInt]

theorem restores_uint64 (n : UInt64) : Restores (integer n.toNat) (fun _ => uint64?) n := by
  refine ⟨written_integer _, fun _ _ => ?_⟩
  have hhigh := n.toNat_lt_size
  rw [uint64?, integer?_integer (by omega) (by omega) (by omega) (by omega), Option.map_some,
    Int.toNat_natCast, UInt64.ofNat_toNat]

/-- Items that are read one by one are read as a list. -/
theorem mapM_map_eq_some {α β : Type} {write : α → β} {read : β → Option α} {items : List α}
    (h : ∀ a ∈ items, read (write a) = some a) : (items.map write).mapM read = some items := by
  induction items with
  | nil => rfl
  | cons a items ih =>
      rw [List.forall_mem_cons] at h
      rw [List.map_cons, List.mapM_cons, h.1, ih h.2]
      rfl

/-- A list is restored by its elements. -/
theorem restores_list {α : Type} {write : α → Json} {read : Nat → Json → Option α} {items : List α}
    (h : ∀ a ∈ items, Restores (write a) read a) :
    Restores (array (items.map write)) (list? read) items := by
  refine ⟨written_array ?_, fun n hn => ?_⟩
  · intro v hv
    obtain ⟨a, ha, rfl⟩ := List.mem_map.mp hv
    exact (h a ha).written
  · obtain ⟨k, rfl, hk⟩ := depth_array_le hn
    exact mapM_map_eq_some fun a ha => (h a ha).reads k (hk _ (List.mem_map_of_mem ha))

/-- A value that may be absent is restored, unless its tree could be that of an absent one. -/
theorem restores_option {α : Type} {write : α → Json} {read : Nat → Json → Option α}
    {v : Option α} (h : ∀ a ∈ v, Restores (write a) read a) (hnull : ∀ a, write a ≠ null) :
    Restores (ofOption write v) (fun n => option? (read n)) v := by
  cases v with
  | none => exact ⟨by rw [ofOption, Option.elim_none, Written]; trivial, fun _ _ => rfl⟩
  | some a =>
      refine ⟨(h a rfl).written, fun n hn => ?_⟩
      rw [ofOption, Option.elim_some] at hn ⊢
      rw [option?, (h a rfl).reads n hn, Option.map_some]
      exact hnull a

/-! ## Tags and records -/

/-- The tag of a variant without content is found among the choices. -/
theorem restores_choice {α : Type} {choices : List (String × α)} {tag : String} {a : α}
    (h : choices.lookup tag = some a) : Restores (text tag) (choice? choices) a := by
  refine ⟨written_text tag, fun n _ => ?_⟩
  have htag : (text tag).unitTag? n = some tag := by cases n <;> rfl
  rw [choice?, htag, Option.bind_some, h]

/-- A tag with content is restored by the content. -/
theorem restores_tagged {α β : Type} {tag : String} {content : Json} {read : Nat → Json → Option α}
    {inner : Nat → Json → Option β} {b : β} (make : β → α) (h : Restores content inner b)
    (hread : ∀ k, read (k + 1) (tagged tag content) = (inner k content).map make) :
    Restores (tagged tag content) read (make b) := by
  refine ⟨written_record ?_, fun n hn => ?_⟩
  · intro m hm
    rw [List.mem_singleton.mp hm]
    exact h.written
  · obtain ⟨k, rfl, hk⟩ := depth_tagged_le hn
    rw [hread, h.reads k hk, Option.map_some]

/-- A reader that does the same on the tree finds the same value. -/
theorem Restores.of_eq {α : Type} {tree : Json} {read read' : Nat → Json → Option α} {a : α}
    (h : Restores tree read a) (heq : ∀ n, read' n tree = read n tree) : Restores tree read' a :=
  ⟨h.written, fun n hn => (heq n).trans (h.reads n hn)⟩

/-- The fields of a record are those it was written with. -/
theorem fields?_record {members : List (String × Json)} {names : List String}
    (hnames : members.map Prod.fst = names) (hrepeated : repeated names = false) :
    (record members).fields? names = some ⟨false, members⟩ := by
  subst hnames
  have hreadable : (members.map fun m : String × Json => (some m.1, m.2)).mapM
      (fun m : Option String × Json => m.1.map (·, m.2)) = some members :=
    mapM_map_eq_some fun _ _ => rfl
  have hknown : members.filter (fun m => (members.map Prod.fst).contains m.1) = members := by
    rw [List.filter_eq_self]
    intro m hm
    rw [List.contains_iff_mem]
    exact List.mem_map_of_mem hm
  rw [record, fields?]
  refine (congrArg (Option.bind · _) hreadable).trans ?_
  simp only [Option.bind_some, hknown, hrepeated]
  rfl

/-- A record is restored if the value is built from its fields, none of them nested too deeply. -/
theorem restores_record {α : Type} {members : List (String × Json)} {names : List String}
    {read : Nat → Json → Option α} {build : Nat → Fields → Option α} {a : α}
    (hread : ∀ k v, read (k + 1) v = (fields? names v).bind (build k))
    (hnames : members.map Prod.fst = names) (hrepeated : repeated names = false)
    (hwritten : ∀ m ∈ members, m.2.Written)
    (hbuild : ∀ k, (∀ m ∈ members, m.2.depth ≤ k) → build k ⟨false, members⟩ = some a) :
    Restores (record members) read a := by
  refine ⟨written_record hwritten, fun n hn => ?_⟩
  obtain ⟨k, rfl, hk⟩ := depth_record_le hn
  rw [hread, fields?_record hnames hrepeated, Option.bind_some]
  exact hbuild k hk

section

variable {α : Type} {members : List (String × Json)} {name : String} {tree : Json}
  {read : Nat → Json → Option α} {n : Nat}

/-- A field that has to be there is read from its tree. -/
theorem required_eq_some {a : α} (hfield : members.lookup name = some tree)
    (h : Restores tree read a) (hdepth : tree.depth ≤ n) :
    Fields.required ⟨false, members⟩ name (read n) = some a := by
  rw [Fields.required, hfield, Option.bind_some]
  exact h.reads n hdepth

/-- So is one that may hold null. -/
theorem optional_eq_some {v : Option α} (hfield : members.lookup name = some tree)
    (h : Restores tree (fun n => option? (read n)) v) (hdepth : tree.depth ≤ n) :
    Fields.optional ⟨false, members⟩ name (read n) = some v := by
  rw [Fields.optional, hfield]
  exact h.reads n hdepth

/-- And one with a default, which is not asked for. -/
theorem defaulted_eq_some {a fallback : α} (hfield : members.lookup name = some tree)
    (h : Restores tree read a) (hdepth : tree.depth ≤ n) :
    Fields.defaulted ⟨false, members⟩ name (read n) fallback = some a := by
  rw [Fields.defaulted, hfield]
  exact h.reads n hdepth

end

end Json

end SqlStore
