/-
# Lists in statements

A statement shows lists in parentheses, with commas between their items.  A comma inside of a
literal or of further parentheses is part of its item, and so are those parentheses.  A `Listing`
goes over the pieces of a text and takes its lists apart, whatever their items are.

* `lists?` : the lists that a text shows, each by the texts of its items;
* `Passes` : texts that are parts of one item, such as the literal of every value;
* `ShowsLists` : a text with the same lists whatever lists stand before it;
* `lists_parens` : texts in parentheses, with commas between them, are a list of these texts.
-/
import SqlStore.Proofs.Statement.Operand
import SqlStore.Proofs.Text.Literal

namespace SqlStore

/-! ## The text of pieces -/

/-- The text of a piece. -/
def Piece.chars : Piece → List Char
  | char c => [c]
  | literal s => '\'' :: doubleQuotes s ++ ['\'']

theorem doubleQuotes_append (s t : List Char) :
    doubleQuotes (s ++ t) = doubleQuotes s ++ doubleQuotes t := by
  induction s with
  | nil => rfl
  | cons c s ih =>
      rw [List.cons_append, doubleQuotes, doubleQuotes, ih]
      split <;> rfl

/-- What is cut has been a text, and inside of a literal the beginning of the literal before it. -/
theorem chars_of_cutFrom {state : Option (List Char)} {cs : List Char} {ps : List Piece}
    (h : cutFrom state cs = some ps) :
    ps.flatMap Piece.chars = state.elim cs fun read => '\'' :: doubleQuotes read ++ cs := by
  fun_induction cutFrom state cs generalizing ps with
  | case1 =>
      cases h
      rfl
  | case2 rest ih => exact ih h
  | case3 c rest hc ih =>
      obtain ⟨qs, hqs, rfl⟩ := Option.map_eq_some_iff.mp h
      rw [List.flatMap_cons, ih hqs]
      rfl
  | case4 read => cases h
  | case5 read rest ih =>
      rw [ih h, Option.elim_some, Option.elim_some, doubleQuotes_append]
      simp [doubleQuotes]
  | case6 read rest hrest ih =>
      obtain ⟨qs, hqs, rfl⟩ := Option.map_eq_some_iff.mp h
      rw [List.flatMap_cons, ih hqs]
      simp [Piece.chars]
  | case7 read c rest hquotes hquote ih =>
      have hc : c ≠ '\'' := hquote
      rw [ih h, Option.elim_some, Option.elim_some, doubleQuotes_append]
      simp [doubleQuotes, hc]

/-- The pieces of a text make up the text. -/
theorem Cuts.chars {s : List Char} {ps : List Piece} (h : Cuts s ps) :
    ps.flatMap Piece.chars = s :=
  chars_of_cutFrom h.eq_some

/-! ## Reading lists -/

/-- What has been read of a text with lists in it. -/
structure Listing where
  /-- The lists that have been read to their ends. -/
  closed : List (List String)
  /-- The items of the open list that have been read to their ends. -/
  items : List String
  /-- What has been read of the next item. -/
  item : List Char
  /-- How many parentheses are open; outside of lists, none. -/
  depth : Nat
deriving DecidableEq, Inhabited

namespace Listing

/-- Nothing is open. -/
def outside (closed : List (List String)) : Listing := ⟨closed, [], [], 0⟩

/-- The items with the one that ends here, without the blanks in front of it. -/
def ended (r : Listing) : List String :=
  r.items ++ [String.ofList (r.item.dropWhile (· = ' '))]

/-- Reads a piece as a part of an item; what stands outside of lists is passed over. -/
def read (r : Listing) (p : Piece) : Listing :=
  if r.depth = 0 then r else { r with item := r.item ++ p.chars }

/-- Reads one piece.  A parenthesis cannot be closed where none is open. -/
def step (r : Listing) (p : Piece) : Option Listing :=
  if p = .char '(' then some { r.read p with depth := r.depth + 1 }
  else if p = .char ')' then
    if r.depth = 0 then none
    else if r.depth = 1 then some (outside (r.closed ++ [r.ended]))
    else some { r.read p with depth := r.depth - 1 }
  else if p = .char ',' ∧ r.depth = 1 then some { r with items := r.ended, item := [] }
  else some (r.read p)

/-- Reads several pieces. -/
def run (r : Listing) (ps : List Piece) : Option Listing := ps.foldlM step r

theorem run_append {r next : Listing} {ps : List Piece} (h : r.run ps = some next)
    (qs : List Piece) : r.run (ps ++ qs) = next.run qs := by
  unfold run at h ⊢
  rw [List.foldlM_append, h]
  rfl

theorem run_cons {r next : Listing} {p : Piece} (h : r.step p = some next) (ps : List Piece) :
    r.run (p :: ps) = next.run ps := by
  unfold run
  rw [List.foldlM_cons, h]
  rfl

/-! ## One step -/

/-- The characters at which lists and their items begin or end. -/
def marks : List Char := ['(', ')', ',']

/-- A piece that is no mark is read as a part of an item. -/
theorem step_quiet (r : Listing) {p : Piece} (hp : ∀ c ∈ marks, p ≠ .char c) :
    r.step p = some (r.read p) := by
  obtain ⟨hopening, hclosing, hcomma⟩ :
      p ≠ .char '(' ∧ p ≠ .char ')' ∧ p ≠ .char ',' := by simpa [marks] using hp
  simp [step, hopening, hclosing, hcomma]

/-- A comma of the open list ends an item of it. -/
theorem step_comma {r : Listing} (hr : r.depth = 1) :
    r.step (.char ',') = some { r with items := r.ended, item := [] } := by
  simp [step, hr]

/-- The parenthesis of the open list ends its last item and the list. -/
theorem step_closing {r : Listing} (hr : r.depth = 1) :
    r.step (.char ')') = some (outside (r.closed ++ [r.ended])) := by
  simp [step, hr]

/-- Inside of further parentheses commas are read like other characters. -/
theorem step_inside {r : Listing} {d : Nat} (hr : r.depth = d + 2) {p : Piece}
    (hopening : p ≠ .char '(') (hclosing : p ≠ .char ')') :
    r.step p = some { r with item := r.item ++ p.chars, depth := d + 2 } := by
  obtain ⟨closed, items, item, depth⟩ := r
  subst hr
  simp [step, read, hopening, hclosing]

/-- Inside of further parentheses a text that keeps its own together is read piece by piece. -/
theorem step_of_scan {s next : Scan} {p : Piece} (h : Scan.Step s p next) {r : Listing}
    (hr : r.depth = s.depth + 2) :
    r.step p = some { r with item := r.item ++ p.chars, depth := next.depth + 2 } := by
  cases h with
  | literal d t => exact step_inside hr (by simp) (by simp)
  | digit d hc => exact step_inside hr (by rintro ⟨⟩; cases hc) (by rintro ⟨⟩; cases hc)
  | minus d => exact step_inside hr (by simp) (by simp)
  | opening d => simp [step, read, hr]
  | closing d => simp [step, read, hr]
  | quiet d hc =>
      exact step_inside hr (by rintro ⟨⟩; simp [Scan.watched] at hc)
        (by rintro ⟨⟩; simp [Scan.watched] at hc)

/-- A scan counts the parentheses of the text alone; two more are open around it. -/
theorem run_of_scan {s last : Scan} {ps : List Piece} (h : s.run ps = some last) {r : Listing}
    (hr : r.depth = s.depth + 2) :
    r.run ps
      = some { r with item := r.item ++ ps.flatMap Piece.chars, depth := last.depth + 2 } := by
  induction ps generalizing s r with
  | nil =>
      cases h
      simp [run, ← hr]
  | cons p ps ih =>
      obtain ⟨next, hstep, hrest⟩ := Scan.run_cons.mp h
      rw [run_cons (step_of_scan (Scan.step_eq_some hstep) hr), ih hrest rfl]
      simp

/-- Outside of lists a text without marks is passed over, and inside of one it is read. -/
theorem run_quiet (r : Listing) {s : List Char} (hs : ∀ c ∈ s, c ∉ marks) :
    r.run (s.map .char)
      = some (if r.depth = 0 then r else { r with item := r.item ++ s }) := by
  induction s generalizing r with
  | nil => simp [run]
  | cons c s ih =>
      obtain ⟨hc, hs⟩ := List.forall_mem_cons.mp hs
      have hpiece : ∀ d ∈ marks, Piece.char c ≠ .char d := by
        rintro d hd ⟨⟩
        exact hc hd
      rw [List.map_cons, run_cons (r.step_quiet hpiece), ih _ hs]
      unfold read
      split <;> simp_all [Piece.chars]

end Listing

/-! ## Parts of an item -/

/-- Inside of a list the text is read as a part of one item, where so many parentheses are open
besides the list's own before it and behind it. -/
def Passes (i j : Nat) (s : String) : Prop :=
  ∃ ps, Cuts s.toList ps ∧ ∀ r : Listing, r.depth = i + 1 →
    r.run ps = some { r with item := r.item ++ s.toList, depth := j + 1 }

/-- A text in which nothing is marked: no quote, no parenthesis and no comma. -/
def Unmarked (s : List Char) : Prop := ∀ c ∈ s, c ≠ '\'' ∧ c ∉ Listing.marks

instance (s : List Char) : Decidable (Unmarked s) :=
  List.decidableBAll (fun c => c ≠ '\'' ∧ c ∉ Listing.marks) s

/-- A name is a run. -/
theorem IsWord.isRun {name : String} (h : IsWord name) : IsRun false name.toList :=
  fun c hc => charRole_of_class (by decide) (h c hc)

/-- A run is made of other characters. -/
theorem IsRun.unmarked {operator : Bool} {s : List Char} (h : IsRun operator s) : Unmarked s := by
  intro c hc
  have hrun := h c hc
  constructor
  · rintro rfl
    cases operator <;> cases hrun
  · intro hmem
    simp only [Listing.marks, List.mem_cons, List.not_mem_nil, or_false] at hmem
    rcases hmem with rfl | rfl | rfl <;> cases operator <;> cases hrun

namespace Unmarked

variable {s : String}

theorem quote_not_mem (h : Unmarked s.toList) : '\'' ∉ s.toList := fun hmem => (h _ hmem).1 rfl

theorem unquoted (h : Unmarked s.toList) : Unquoted s :=
  fun hhead => h.quote_not_mem (List.mem_of_mem_head? hhead)

theorem passes (h : Unmarked s.toList) (i : Nat) : Passes i i s := by
  refine ⟨_, cuts_plain h.quote_not_mem, fun r hr => ?_⟩
  rw [r.run_quiet fun c hc => (h c hc).2, if_neg (by omega), ← hr]

end Unmarked

/-- One text after another, where no quote comes to stand behind a quote. -/
theorem Cuts.append_of {s t : List Char} {ps qs : List Piece} (hs : Cuts s ps) (ht : Cuts t qs)
    (h : '\'' ∉ s ∨ t.head? ≠ some '\'') : Cuts (s ++ t) (ps ++ qs) := by
  rcases h with hquote | hhead
  · have hps : ps = s.map .char :=
      Option.some.inj (hs.eq_some.symm.trans (cuts_plain hquote).eq_some)
    rw [hps]
    exact .plain_append hquote ht
  · exact hs.append ht hhead

/-- The literal of a text. -/
theorem passes_quoted (s : String) (i : Nat) : Passes i i (quoted s) := by
  refine ⟨_, cuts_quoted s, fun r hr => ?_⟩
  have hstep : r.step (.literal s.toList) = some (r.read (.literal s.toList)) :=
    r.step_quiet (by simp)
  rw [Listing.run_cons hstep, Listing.read, if_neg (by omega), ← hr]
  simp [Listing.run, Piece.chars, quoted]

/-- A text that keeps its parentheses together, inside of further parentheses. -/
theorem Redacts.passes {i j : Nat} {s t : String} (h : Redacts i j s t) :
    Passes (i + 1) (j + 1) s := by
  obtain ⟨ps, hcuts, -, hrun⟩ := h
  refine ⟨ps, hcuts, fun r hr => ?_⟩
  rw [Listing.run_of_scan hrun hr, hcuts.chars]

theorem passes_opening (i : Nat) : Passes i (i + 1) "(" := by
  refine ⟨[.char '('], cuts_plain (by decide), fun r hr => ?_⟩
  simp [Listing.run, Listing.step, Listing.read, Piece.chars, hr]

theorem passes_closing (i : Nat) : Passes (i + 1) i ")" := by
  refine ⟨[.char ')'], cuts_plain (by decide), fun r hr => ?_⟩
  simp [Listing.run, Listing.step, Listing.read, Piece.chars, hr]

namespace Passes

variable {i j k : Nat} {s t : String}

theorem append (hs : Passes i j s) (ht : Passes j k t)
    (h : '\'' ∉ s.toList ∨ Unquoted t) : Passes i k (s ++ t) := by
  obtain ⟨ps, hcuts, hrun⟩ := hs
  obtain ⟨qs, hcuts', hrun'⟩ := ht
  refine ⟨ps ++ qs, ?_, fun r hr => ?_⟩
  · rw [String.toList_append]
    exact hcuts.append_of hcuts' h
  · rw [Listing.run_append (hrun r hr), hrun' _ rfl]
    simp

/-- Texts with a blank between any two of them. -/
theorem words {ss : List String} (h : ∀ s ∈ ss, Passes i i s) :
    Passes i i (" ".intercalate ss) := by
  have hblank : Unmarked " ".toList := by decide
  induction ss with
  | nil => exact Unmarked.passes (by decide) i
  | cons s ss ih =>
      obtain ⟨hs, hss⟩ := List.forall_mem_cons.mp h
      cases ss with
      | nil => simpa using hs
      | cons s' ss =>
          rw [String.intercalate_cons_cons, String.append_assoc]
          refine hs.append ((hblank.passes i).append (ih hss) (.inl hblank.quote_not_mem)) (.inr ?_)
          exact hblank.unquoted.append (by decide) _

end Passes

/-- A text that keeps its parentheses together, in parentheses. -/
theorem Redacts.passes_parens {s t : String} (h : Redacts 0 0 s t) :
    Passes 0 0 ("(" ++ s ++ ")") := by
  refine ((passes_opening 0).append h.passes (.inl (by decide))).append (passes_closing 0) (.inr ?_)
  exact (by decide : ")".toList.head? ≠ some '\'')

/-! ## Items -/

/-- A text that can be an item of a list. -/
structure Item (s : String) : Prop where
  passes : Passes 0 0 s
  /-- A blank in front is no part of an item. -/
  head : s.toList.head? ≠ some ' '

/-- A name or a number. -/
theorem IsRun.item {operator : Bool} {s : String} (h : IsRun operator s.toList) : Item s := by
  refine ⟨h.unmarked.passes 0, fun hhead => ?_⟩
  have hrun := h ' ' (List.mem_of_mem_head? hhead)
  cases operator <;> cases hrun

theorem IsWord.item {name : String} (h : IsWord name) : Item name := h.isRun.item

theorem item_quoted (s : String) : Item (quoted s) :=
  ⟨passes_quoted s 0, by simp [quoted]⟩

theorem Redacts.item_parens {s t : String} (h : Redacts 0 0 s t) : Item ("(" ++ s ++ ")") :=
  ⟨h.passes_parens, by simp⟩

/-- An item that goes on. -/
theorem Item.append {s t : String} (hs : Item s) (hne : s ≠ "") (ht : Passes 0 0 t)
    (h : '\'' ∉ s.toList ∨ Unquoted t) : Item (s ++ t) := by
  have hlist : s.toList ≠ [] := by simpa using hne
  refine ⟨hs.passes.append ht h, ?_⟩
  rw [String.toList_append, List.head?_append_of_ne_nil _ hlist]
  exact hs.head

theorem unquoted_parens (s : String) : Unquoted ("(" ++ s ++ ")") := by
  simp [Unquoted]

namespace Value

/-- The literal of a real. -/
theorem item_real (x : Double) : Item x.literal := by
  by_cases hx : x.isFinite = true
  · obtain ⟨r, hr, hchars⟩ := x.exists_realText hx
    exact IsRun.item (hchars ▸ RealText.isRun_chars hr)
  · rw [Double.literal, if_neg hx]
    exact IsWord.item (by decide)

/-- The literal of a value can be an item of a list, whatever the value holds. -/
theorem item_toSql (v : Value) : Item v.toSql := by
  cases v with
  | integer n => exact IsRun.item (isRun_toString n.toInt)
  | real x => exact item_real x
  | text s => exact item_quoted s
  | boolean b =>
      cases b
      · exact IsRun.item (isRun_toString 0)
      · exact IsRun.item (isRun_toString 1)
  | list items =>
      rw [toSql, literals_eq_map]
      exact (redacts_joined fun w _ => w.redacts_toSql).item_parens

/-- The literal of a value that may be absent. -/
theorem item_literal (v : Option Value) : Item (literal v) := by
  cases v with
  | none => exact IsWord.item (by decide)
  | some v => exact v.item_toSql

end Value

/-! ## Lists -/

/-- The lists that a text shows, in order, if all its literals and lists are closed. -/
def lists? (text : String) : Option (List (List String)) := do
  let ps ← pieces? text.toList
  let r ← (Listing.outside []).run ps
  if r.depth = 0 then some r.closed else none

/-- Outside of lists the text shows the given lists and leaves none open. -/
def ShowsLists (s : String) (ls : List (List String)) : Prop :=
  ∃ ps, Cuts s.toList ps ∧ ∀ closed,
    (Listing.outside closed).run ps = some (Listing.outside (closed ++ ls))

/-- A text without marks shows no list. -/
theorem Unmarked.lists {s : String} (h : Unmarked s.toList) : ShowsLists s [] := by
  refine ⟨_, cuts_plain h.quote_not_mem, fun closed => ?_⟩
  have hdepth : (Listing.outside closed).depth = 0 := rfl
  rw [(Listing.outside closed).run_quiet fun c hc => (h c hc).2, if_pos hdepth, List.append_nil]

theorem ShowsLists.append {s t : String} {ks ls : List (List String)} (hs : ShowsLists s ks)
    (ht : ShowsLists t ls) (hquote : Unquoted t) : ShowsLists (s ++ t) (ks ++ ls) := by
  obtain ⟨ps, hcuts, hrun⟩ := hs
  obtain ⟨qs, hcuts', hrun'⟩ := ht
  refine ⟨ps ++ qs, ?_, fun closed => ?_⟩
  · rw [String.toList_append]
    exact hcuts.append hcuts' hquote
  · rw [Listing.run_append (hrun closed), hrun', List.append_assoc]

/-- An item is ended with all that has been read of it but blanks in front. -/
theorem Item.ended {s : String} (h : Item s) (r : Listing) {blanks : List Char}
    (hblanks : ∀ c ∈ blanks, c = ' ') :
    { r with item := blanks ++ s.toList }.ended = r.items ++ [s] := by
  have hdrop : s.toList.dropWhile (· = ' ') = s.toList := by
    cases hs : s.toList with
    | nil => rfl
    | cons c cs =>
        have hc : c ≠ ' ' := fun hc => h.head (by rw [hs, hc, List.head?_cons])
        simp [hc]
  rw [Listing.ended, List.dropWhile_append_of_pos (by simpa using hblanks), hdrop,
    String.ofList_toList]

/-- Items with commas between them and a parenthesis behind them end the open list. -/
theorem exists_items {s : String} (ss : List String) (h : ∀ t ∈ s :: ss, Item t) :
    ∃ ps, Cuts ((", ".intercalate (s :: ss)).toList ++ [')']) ps ∧
      ∀ (closed : List (List String)) (items : List String) (blanks : List Char),
        (∀ c ∈ blanks, c = ' ') →
        (⟨closed, items, blanks, 1⟩ : Listing).run ps
          = some (.outside (closed ++ [items ++ s :: ss])) := by
  -- The blank behind a comma is read before the next item, so an item may begin behind blanks.
  induction ss generalizing s with
  | nil =>
      have hs := h s List.mem_cons_self
      obtain ⟨ps, hcuts, hrun⟩ := hs.passes
      refine ⟨ps ++ [.char ')'], ?_, fun closed items blanks hblanks => ?_⟩
      · simpa using hcuts.append (cuts_plain (s := [')']) (by decide)) (by simp)
      · rw [Listing.run_append (hrun _ rfl), Listing.run_cons (Listing.step_closing rfl),
          hs.ended ⟨closed, items, [], 1⟩ hblanks]
        rfl
  | cons t ss ih =>
      have hs := h s List.mem_cons_self
      obtain ⟨ps, hcuts, hrun⟩ := hs.passes
      obtain ⟨qs, hcuts', hrun'⟩ := ih fun u hu => h u (List.mem_cons_of_mem s hu)
      have hsep : '\'' ∉ [',', ' '] := by decide
      refine ⟨ps ++ (.char ',' :: .char ' ' :: qs), ?_, fun closed items blanks hblanks => ?_⟩
      · simpa using hcuts.append (.plain_append hsep hcuts') (by simp)
      · have hblank : (⟨closed, items ++ [s], [], 1⟩ : Listing).step (.char ' ')
            = some ⟨closed, items ++ [s], [' '], 1⟩ := rfl
        rw [Listing.run_append (hrun _ rfl), Listing.run_cons (Listing.step_comma rfl),
          hs.ended ⟨closed, items, [], 1⟩ hblanks, Listing.run_cons hblank,
          hrun' closed _ [' '] (by simp), List.append_assoc, List.singleton_append]

/-- Texts in parentheses with commas between them. -/
theorem lists_parens {ss : List String} (hne : ss ≠ []) (h : ∀ s ∈ ss, Item s) :
    ShowsLists ("(" ++ ", ".intercalate ss ++ ")") [ss] := by
  obtain ⟨s, ss, rfl⟩ := List.exists_cons_of_ne_nil hne
  obtain ⟨ps, hcuts, hrun⟩ := exists_items ss h
  refine ⟨.char '(' :: ps, ?_, fun closed => ?_⟩
  · simpa using Cuts.plain_append (s := ['(']) (by decide) hcuts
  · have hstep : (Listing.outside closed).step (.char '(') = some ⟨closed, [], [], 1⟩ := rfl
    rw [Listing.run_cons hstep, hrun closed [] [] (by simp), List.nil_append]

theorem ShowsLists.lists?_eq {s : String} {ls : List (List String)} (h : ShowsLists s ls) :
    lists? s = some ls := by
  obtain ⟨ps, hcuts, hrun⟩ := h
  have hdepth : (Listing.outside ls).depth = 0 := rfl
  rw [lists?, hcuts.eq_some]
  show ((Listing.outside []).run ps).bind _ = _
  rw [hrun, List.nil_append, Option.bind_some, if_pos hdepth, Listing.outside]

/-- Commas and parentheses that are not the list's own are left where they are. -/
example : lists? "INSERT INTO t (a, b) VALUES ('it''s, (one', (1, 2));"
    = some [["a", "b"], ["'it''s, (one'", "(1, 2)"]] := by decide +kernel

end SqlStore
