/-
# Statement text cut at its string literals

A single quote opens a literal, which ends at the first quote that is not doubled.  `pieces?` cuts a
text into the characters outside of literals and the literals themselves, each literal one piece
whatever it holds, so that everything said about quotes is said here.

* `pieces?` : the pieces of a text whose literals are all closed;
* `Cuts` : a text that is cut the same way whatever follows it, a further quote apart;
* `cuts_quoted` : the literal of a text is one piece, and that piece is the text.
-/
import SqlStore.Value

namespace SqlStore

/-! ## Pieces -/

/-- A part of a statement: one character, or a string literal as a whole. -/
inductive Piece
  | char (c : Char)
  /-- A literal, by the characters that it stands for. -/
  | literal (s : List Char)
deriving DecidableEq, Inhabited

/-- Cuts a text that begins outside of literals, or inside one of which some characters have been
read.  A text that ends inside a literal cannot be cut. -/
def cutFrom : Option (List Char) → List Char → Option (List Piece)
  | none, [] => some []
  | none, c :: rest =>
      if c = '\'' then cutFrom (some []) rest else (cutFrom none rest).map (.char c :: ·)
  | some _, [] => none
  | some s, '\'' :: '\'' :: rest => cutFrom (some (s ++ ['\''])) rest
  | some s, '\'' :: rest => (cutFrom none rest).map (.literal s :: ·)
  | some s, c :: rest => cutFrom (some (s ++ [c])) rest

/-- The pieces of a text, if all its literals are closed. -/
def pieces? (text : List Char) : Option (List Piece) := cutFrom none text

/-- The empty text has no pieces. -/
@[simp] theorem pieces?_nil : pieces? [] = some [] := rfl

/-- A character other than the quote is a piece. -/
theorem pieces?_cons {c : Char} (hc : c ≠ '\'') (rest : List Char) :
    pieces? (c :: rest) = (pieces? rest).map (.char c :: ·) := by
  rw [pieces?, cutFrom, if_neg hc, ← pieces?]

/-! ## Inside a literal -/

/-- A character other than the quote is read as it is. -/
theorem cutFrom_some_cons {c : Char} (hc : c ≠ '\'') (s rest : List Char) :
    cutFrom (some s) (c :: rest) = cutFrom (some (s ++ [c])) rest := by
  rw [cutFrom]
  · rintro r rfl
    exact absurd rfl hc
  · exact hc

/-- A quote that no other quote follows ends the literal. -/
theorem cutFrom_some_quote (s : List Char) {rest : List Char} (h : rest.head? ≠ some '\'') :
    cutFrom (some s) ('\'' :: rest) = (pieces? rest).map (.literal s :: ·) := by
  rw [cutFrom, ← pieces?]
  rintro r rfl
  exact h rfl

/-- A text with its quotes doubled is read back up to the quote that ends the literal. -/
theorem cutFrom_some_doubleQuotes (read s : List Char) {rest : List Char}
    (h : rest.head? ≠ some '\'') :
    cutFrom (some read) (doubleQuotes s ++ '\'' :: rest)
      = (pieces? rest).map (.literal (read ++ s) :: ·) := by
  induction s generalizing read with
  | nil =>
      rw [doubleQuotes, List.nil_append, cutFrom_some_quote read h, List.append_nil]
  | cons c s ih =>
      by_cases hc : c = '\''
      · subst hc
        rw [doubleQuotes, if_pos rfl, List.cons_append, List.cons_append, cutFrom, ih,
          List.append_assoc, List.singleton_append]
      · rw [doubleQuotes, if_neg hc, List.cons_append, cutFrom_some_cons hc, ih,
          List.append_assoc, List.singleton_append]

/-- What begins inside a literal has at least one piece. -/
theorem cutFrom_some_ne_nil (s cs : List Char) : cutFrom (some s) cs ≠ some [] := by
  generalize hstate : some s = state
  fun_induction cutFrom state cs generalizing s with
  | case1 => cases hstate
  | case2 rest ih => cases hstate
  | case3 c rest hc ih => cases hstate
  | case4 read => simp
  | case5 read rest ih => exact ih _ rfl
  | case6 read rest hrest ih =>
      intro h
      obtain ⟨ps, -, hps⟩ := Option.map_eq_some_iff.mp h
      cases hps
  | case7 read c rest hquotes hquote ih => exact ih _ rfl

/-- Only the empty text has no pieces. -/
theorem pieces?_eq_nil {cs : List Char} (h : pieces? cs = some []) : cs = [] := by
  cases cs with
  | nil => rfl
  | cons c cs =>
      by_cases hc : c = '\''
      · rw [pieces?, cutFrom, if_pos hc] at h
        exact absurd h (cutFrom_some_ne_nil [] cs)
      · rw [pieces?_cons hc] at h
        obtain ⟨ps, -, hps⟩ := Option.map_eq_some_iff.mp h
        cases hps

/-! ## Texts that are cut on their own -/

/-- The text has the given pieces whatever text follows it, as long as that does not start with a
quote, which would double a quote at the end. -/
def Cuts (s : List Char) (ps : List Piece) : Prop :=
  ∀ rest : List Char, rest.head? ≠ some '\'' → pieces? (s ++ rest) = (pieces? rest).map (ps ++ ·)

/-- Characters other than the quote are their own pieces, even before a quote. -/
theorem pieces?_append {s : List Char} (hs : '\'' ∉ s) (rest : List Char) :
    pieces? (s ++ rest) = (pieces? rest).map (s.map .char ++ ·) := by
  induction s with
  | nil => simp
  | cons c s ih =>
      have hc : c ≠ '\'' := fun h => hs (h ▸ List.mem_cons_self)
      have hs' : '\'' ∉ s := fun h => hs (List.mem_cons_of_mem c h)
      rw [List.cons_append, pieces?_cons hc, ih hs', Option.map_map]
      rfl

/-- A text without quotes is cut into its characters. -/
theorem cuts_plain {s : List Char} (hs : '\'' ∉ s) : Cuts s (s.map .char) :=
  fun rest _ => pieces?_append hs rest

/-- The literal of a text is one piece. -/
theorem cuts_quoted (s : String) : Cuts (quoted s).toList [.literal s.toList] := by
  intro rest h
  rw [quoted, String.toList_ofList, List.append_assoc, List.cons_append, pieces?, cutFrom,
    if_pos rfl, List.singleton_append, cutFrom_some_doubleQuotes [] _ h]
  rfl

namespace Cuts

/-- The pieces of the text itself. -/
theorem eq_some {s : List Char} {ps : List Piece} (h : Cuts s ps) : pieces? s = some ps := by
  simpa using h [] (by simp)

/-- One text after another, when no quote comes to stand beside a quote. -/
theorem append {s t : List Char} {ps qs : List Piece} (hs : Cuts s ps) (ht : Cuts t qs)
    (hq : t.head? ≠ some '\'') : Cuts (s ++ t) (ps ++ qs) := by
  intro rest h
  have hhead : (t ++ rest).head? ≠ some '\'' := by
    cases t with
    | nil => exact h
    | cons c t => exact hq
  rw [List.append_assoc, hs _ hhead, ht rest h, Option.map_map]
  congr 1
  funext rs
  simp

/-- A text without quotes may stand before any other. -/
theorem plain_append {s t : List Char} {qs : List Piece} (hs : '\'' ∉ s) (ht : Cuts t qs) :
    Cuts (s ++ t) (s.map .char ++ qs) := by
  intro rest h
  rw [List.append_assoc, pieces?_append hs, ht rest h, Option.map_map]
  congr 1
  funext rs
  simp

end Cuts

end SqlStore
