/-
# Tokens of a statement

Outside of literals a text is made of runs: names, keywords and numbers are runs of word characters,
comparisons are runs of operator characters, parentheses and commas stand for themselves, and blanks
only separate.  A string literal is one token, whatever it holds.

* `tokens?` : the tokens of a text whose literals are all closed;
* `Lexes` : a text with the same tokens whatever follows it, if that begins with a blank or a mark;
* `lexes_word`, `lexes_operator`, `lexes_quoted`, `Lexes.append`, `lexes_words` : the texts that
  statements are made of.
-/
import Mathlib.Data.List.Forall2
import SqlStore.Proofs.Text.Piece

namespace SqlStore

/-! ## Tokens -/

/-- The smallest part of a statement that has a meaning. -/
inductive Token
  /-- A name, a keyword or a number. -/
  | word (s : String)
  | operator (s : String)
  | opening
  | closing
  | comma
  /-- A string literal, by the text that it stands for. -/
  | text (s : String)
deriving DecidableEq, Inhabited

/-- What a character does in a text. -/
inductive CharRole
  | blank
  | mark (t : Token)
  /-- Belongs to a run, of operator characters or of word characters. -/
  | run (operator : Bool)
  | quote
deriving DecidableEq

/-- The role of a character. -/
def charRole (c : Char) : CharRole :=
  if c = ' ' || c = '\n' || c = '\t' then .blank
  else if c = '(' then .mark .opening
  else if c = ')' then .mark .closing
  else if c = ',' then .mark .comma
  else if c = '=' || c = '!' || c = '<' || c = '>' then .run true
  else if c = '\'' then .quote
  else .run false

/-- The token of a run, if there is a run. -/
def runToken : List Char → List Token
  | [] => []
  | c :: rest =>
      [if charRole c = .run true then .operator (String.ofList (c :: rest))
       else .word (String.ofList (c :: rest))]

/-- The tokens of the given pieces, where some characters of a run have been read already. -/
def tokensFrom : List Char → List Piece → List Token
  | run, [] => runToken run
  | run, .literal s :: rest => runToken run ++ .text (String.ofList s) :: tokensFrom [] rest
  | run, .char c :: rest =>
      match charRole c with
      | .blank => runToken run ++ tokensFrom [] rest
      | .mark t => runToken run ++ t :: tokensFrom [] rest
      | role =>
          if run.all (charRole · = role) then tokensFrom (run ++ [c]) rest
          else runToken run ++ tokensFrom [c] rest

/-- The tokens of a text, if all its literals are closed. -/
def tokens? (text : List Char) : Option (List Token) := (pieces? text).map (tokensFrom [])

/-! ## One character or literal -/

/-- A text that begins with a blank or a mark, so that it ends the run before it. -/
def Apart (s : List Char) : Prop :=
  ∀ c ∈ s.head?, charRole c = .blank ∨ ∃ t, charRole c = .mark t

/-- Nothing follows. -/
@[simp] theorem apart_nil : Apart [] := by simp [Apart]

theorem apart_cons_of_blank {c : Char} (hc : charRole c = .blank) (s : List Char) :
    Apart (c :: s) := by
  rintro d ⟨⟩
  exact .inl hc

theorem apart_cons_of_mark {c : Char} {t : Token} (hc : charRole c = .mark t) (s : List Char) :
    Apart (c :: s) := by
  rintro d ⟨⟩
  exact .inr ⟨t, hc⟩

@[simp] theorem apart_space (s : List Char) : Apart (' ' :: s) := apart_cons_of_blank rfl s

@[simp] theorem apart_closing (s : List Char) : Apart (')' :: s) := apart_cons_of_mark rfl s

@[simp] theorem apart_comma (s : List Char) : Apart (',' :: s) := apart_cons_of_mark rfl s

theorem Apart.append {s t : List Char} (hs : Apart s) (ht : Apart t) : Apart (s ++ t) := by
  cases s with
  | nil => exact ht
  | cons c s => exact hs

/-- A quote neither separates nor is a mark. -/
theorem Apart.head?_ne {s : List Char} (h : Apart s) : s.head? ≠ some '\'' := by
  intro hs
  have hq : charRole '\'' = .quote := by decide
  rcases h '\'' hs with hc | ⟨t, hc⟩
  · rw [hq] at hc
    cases hc
  · rw [hq] at hc
    cases hc

/-- A character with a role other than the quote's is no quote. -/
theorem ne_quote_of_charRole {c : Char} (h : charRole c ≠ .quote) : c ≠ '\'' := by
  rintro rfl
  exact h rfl

theorem tokens?_cons_of_blank {c : Char} (hc : charRole c = .blank) (rest : List Char) :
    tokens? (c :: rest) = tokens? rest := by
  rw [tokens?, pieces?_cons (ne_quote_of_charRole (by simp [hc])), Option.map_map, tokens?]
  congr 1
  funext ps
  simp [tokensFrom, hc, runToken]

theorem tokens?_cons_of_mark {c : Char} {t : Token} (hc : charRole c = .mark t)
    (rest : List Char) : tokens? (c :: rest) = (tokens? rest).map (t :: ·) := by
  rw [tokens?, pieces?_cons (ne_quote_of_charRole (by simp [hc])), Option.map_map, tokens?,
    Option.map_map]
  congr 1
  funext ps
  simp [tokensFrom, hc, runToken]

/-! ## Runs -/

/-- A text of word characters, or of operator characters. -/
def IsRun (operator : Bool) (s : List Char) : Prop := ∀ c ∈ s, charRole c = .run operator

instance (operator : Bool) (s : List Char) : Decidable (IsRun operator s) :=
  List.decidableBAll _ s

theorem IsRun.quote_not_mem {operator : Bool} {s : List Char} (h : IsRun operator s) :
    '\'' ∉ s := by
  intro hq
  exact absurd (h _ hq) (by cases operator <;> decide)

/-- A run is read on to its end. -/
theorem tokensFrom_run {operator : Bool} {w : List Char} (read : List Char)
    (hread : IsRun operator read) (hw : IsRun operator w) (ps : List Piece) :
    tokensFrom read (w.map .char ++ ps) = tokensFrom (read ++ w) ps := by
  induction w generalizing read with
  | nil => simp
  | cons c w ih =>
      have hc : charRole c = .run operator := hw c List.mem_cons_self
      have hall : read.all (charRole · = .run operator) = true := by
        simpa [IsRun] using hread
      have hread' : IsRun operator (read ++ [c]) := by
        intro d hd
        rcases List.mem_append.mp hd with hd | hd
        · exact hread d hd
        · rw [List.mem_singleton.mp hd, hc]
      rw [List.map_cons, List.cons_append, tokensFrom, hc]
      simp only [hall, if_true]
      rw [ih (read ++ [c]) hread' fun d hd => hw d (List.mem_cons_of_mem c hd),
        List.append_assoc, List.singleton_append]

/-- What stands apart ends the run before it. -/
theorem map_tokensFrom {rest : List Char} (h : Apart rest) (run : List Char) :
    (pieces? rest).map (tokensFrom run) = (tokens? rest).map (runToken run ++ ·) := by
  cases rest with
  | nil => simp [tokens?, tokensFrom, runToken]
  | cons c rest =>
      rcases h c rfl with hc | ⟨t, hc⟩
      · rw [tokens?_cons_of_blank hc, pieces?_cons (ne_quote_of_charRole (by simp [hc])),
          tokens?, Option.map_map, Option.map_map]
        congr 1
        funext ps
        simp [tokensFrom, hc]
      · rw [tokens?_cons_of_mark hc, pieces?_cons (ne_quote_of_charRole (by simp [hc])),
          tokens?, Option.map_map, Option.map_map, Option.map_map]
        congr 1
        funext ps
        simp [tokensFrom, hc]

/-- The characters that belong to no word. -/
def wordEnds : List Char := [' ', '\n', '\t', '(', ')', ',', '=', '!', '<', '>', '\'']

/-- A class of characters that holds none of the others consists of word characters. -/
theorem charRole_of_class {p : Char → Bool} (hp : wordEnds.all (!p ·) = true) {c : Char}
    (hc : p c = true) : charRole c = .run false := by
  have hne : ∀ d ∈ wordEnds, c ≠ d := by
    rintro d hd rfl
    have hd := List.all_eq_true.mp hp c hd
    rw [hc] at hd
    cases hd
  simp only [wordEnds, List.forall_mem_cons] at hne
  obtain ⟨h₁, h₂, h₃, h₄, h₅, h₆, h₇, h₈, h₉, h₁₀, h₁₁, -⟩ := hne
  simp [charRole, *]

/-! ## Texts that are read on their own -/

/-- The text has the given tokens whatever text stands apart from it behind. -/
def Lexes (s : List Char) (ts : List Token) : Prop :=
  ∀ rest : List Char, Apart rest → tokens? (s ++ rest) = (tokens? rest).map (ts ++ ·)

/-- A run is one token. -/
theorem lexes_run {operator : Bool} {s : List Char} (hs : IsRun operator s) :
    Lexes s (runToken s) := by
  intro rest h
  rw [tokens?, pieces?_append hs.quote_not_mem, Option.map_map, ← map_tokensFrom h s]
  congr 1
  funext ps
  exact tokensFrom_run [] (by simp [IsRun]) hs ps

/-- A run of word characters is a word. -/
theorem lexes_word {s : String} (hs : IsRun false s.toList) (hne : s.toList ≠ []) :
    Lexes s.toList [.word s] := by
  have h := lexes_run hs
  obtain ⟨c, cs, hcs⟩ := List.exists_cons_of_ne_nil hne
  have hc : charRole c = .run false := hs c (hcs ▸ List.mem_cons_self)
  rw [hcs, runToken, hc, ← hcs, String.ofList_toList] at h
  exact h

/-- A run of operator characters is an operator. -/
theorem lexes_operator {s : String} (hs : IsRun true s.toList) (hne : s.toList ≠ []) :
    Lexes s.toList [.operator s] := by
  have h := lexes_run hs
  obtain ⟨c, cs, hcs⟩ := List.exists_cons_of_ne_nil hne
  have hc : charRole c = .run true := hs c (hcs ▸ List.mem_cons_self)
  rw [hcs, runToken, hc, ← hcs, String.ofList_toList] at h
  exact h

/-- The literal of a text is one token. -/
theorem lexes_quoted (s : String) : Lexes (quoted s).toList [.text s] := by
  intro rest h
  rw [tokens?, cuts_quoted s rest h.head?_ne, Option.map_map, tokens?, Option.map_map]
  congr 1
  funext ps
  simp [tokensFrom, runToken]

namespace Lexes

/-- The empty text has no tokens. -/
theorem nil : Lexes [] [] := by
  intro rest _
  simp

/-- The tokens of the text itself. -/
theorem eq_some {s : List Char} {ts : List Token} (h : Lexes s ts) : tokens? s = some ts := by
  simpa [tokens?, tokensFrom, runToken] using h [] apart_nil

/-- One text after another that stands apart from it. -/
theorem append {s t : List Char} {ts us : List Token} (hs : Lexes s ts) (ht : Lexes t us)
    (hapart : Apart t) : Lexes (s ++ t) (ts ++ us) := by
  intro rest h
  rw [List.append_assoc, hs _ (hapart.append h), ht rest h, Option.map_map]
  congr 1
  funext vs
  simp

/-- A blank before a text is not seen. -/
theorem space {s : List Char} {ts : List Token} (h : Lexes s ts) : Lexes (' ' :: s) ts := by
  intro rest hrest
  rw [List.cons_append, tokens?_cons_of_blank rfl, h rest hrest]

/-- A mark before a text is one token more. -/
theorem mark {c : Char} {t : Token} (hc : charRole c = .mark t) {s : List Char} {ts : List Token}
    (h : Lexes s ts) : Lexes (c :: s) (t :: ts) := by
  intro rest hrest
  rw [List.cons_append, tokens?_cons_of_mark hc, h rest hrest, Option.map_map]
  rfl

/-- Two texts with a blank between them. -/
theorem spaced {s t : List Char} {ts us : List Token} (hs : Lexes s ts) (ht : Lexes t us) :
    Lexes (s ++ ' ' :: t) (ts ++ us) :=
  hs.append ht.space (apart_space t)

end Lexes

/-- Texts with a blank between any two of them. -/
theorem lexes_words {ss : List String} {tss : List (List Token)}
    (h : List.Forall₂ (fun s ts => Lexes s.toList ts) ss tss) :
    Lexes (" ".intercalate ss).toList tss.flatten := by
  induction h with
  | nil => exact .nil
  | @cons s ts ss tss hs hss ih =>
      cases hss with
      | nil => simpa using hs
      | cons hs' hss' =>
          rw [String.intercalate_cons_cons]
          simpa using hs.spaced ih

/-- Words of the language. -/
theorem lexes_keywords (ws : List String) (h : ∀ w ∈ ws, IsRun false w.toList ∧ w.toList ≠ []) :
    Lexes (" ".intercalate ws).toList (ws.map .word) := by
  have hwords : List.Forall₂ (fun s ts => Lexes s.toList ts) ws (ws.map fun w => [.word w]) := by
    rw [List.forall₂_map_right_iff, List.forall₂_same]
    exact fun w hw => lexes_word (h w hw).1 (h w hw).2
  have hflatten : (ws.map fun w => [Token.word w]).flatten = ws.map .word := by
    rw [← List.flatMap_def, List.map_eq_flatMap]
  exact hflatten ▸ lexes_words hwords

end SqlStore
