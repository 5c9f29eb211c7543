/-
# Text outside of literals

What a literal holds is nothing to a reader of statements: a statement ends at the semicolon
outside of literals, and parentheses and comments are those outside of literals.  A `Scan` goes
over the pieces of a text with the depth of the open parentheses.  It refuses whatever could end
the statement early or open a comment, and it goes over one text after another as it goes over
each.

* `OneStatement` : pieces that are one statement;
* `outside?` : the pieces of a text without what its literals hold;
* `Scan.run`, `Scan.oneStatement` : what the scan lets pass is the body of one statement.
-/
import SqlStore.Proofs.Text.Piece

namespace SqlStore

/-! ## Statements -/

/-- The piece without what a literal holds. -/
def Piece.blank : Piece → Piece
  | char c => char c
  | literal _ => literal []

/-- What stands outside of literals, and where the literals stand, if all of them are closed. -/
def outside? (text : String) : Option (List Piece) :=
  (pieces? text.toList).map (·.map Piece.blank)

/-- The pieces are one statement: outside of literals they have one semicolon, which is the last
piece, no parenthesis without its partner, and nothing that opens a comment. -/
structure OneStatement (ps : List Piece) : Prop where
  semicolon : ps.count (.char ';') = 1
  last : ps.getLast? = some (.char ';')
  /-- No parenthesis is closed before it is opened. -/
  nested : ∀ qs, qs <+: ps → qs.count (.char ')') ≤ qs.count (.char '(')
  balanced : ps.count (.char ')') = ps.count (.char '(')
  lineComment : ¬ [.char '-', .char '-'] <:+: ps
  blockComment : ¬ [.char '/', .char '*'] <:+: ps

/-! ## The scan -/

/-- A position in the body of a statement. -/
structure Scan where
  /-- How many parentheses are open. -/
  depth : Nat
  /-- Whether a minus has just been read, which only a digit can follow. -/
  minus : Bool
deriving DecidableEq, Inhabited

namespace Scan

/-- Goes over one piece, if it may stand here. -/
def step (s : Scan) : Piece → Option Scan
  | .literal _ => if s.minus then none else some s
  | .char c =>
      if s.minus then
        if c.isDigit then some { s with minus := false } else none
      else if c = '\'' ∨ c = ';' ∨ c = '/' then none
      else if c = '-' then some { s with minus := true }
      else if c = '(' then some { s with depth := s.depth + 1 }
      else if c = ')' then
        if s.depth = 0 then none else some { s with depth := s.depth - 1 }
      else some s

/-- Goes over several pieces. -/
def run (s : Scan) (ps : List Piece) : Option Scan := ps.foldlM step s

theorem run_append {s next : Scan} {ps : List Piece} (h : s.run ps = some next)
    (qs : List Piece) : s.run (ps ++ qs) = next.run qs := by
  unfold run at h ⊢
  rw [List.foldlM_append, h]
  rfl

theorem run_cons {s last : Scan} {p : Piece} {ps : List Piece} :
    s.run (p :: ps) = some last ↔ ∃ next, s.step p = some next ∧ next.run ps = some last := by
  unfold run
  rw [List.foldlM_cons]
  exact Option.bind_eq_some_iff

/-- A scan of a text has gone over every beginning of the text. -/
theorem run_prefix {s last : Scan} {ps qs : List Piece} (h : s.run (ps ++ qs) = some last) :
    ∃ next, s.run ps = some next ∧ next.run qs = some last := by
  unfold run at h ⊢
  rw [List.foldlM_append] at h
  exact Option.bind_eq_some_iff.mp h

/-! ## One step -/

/-- The characters that the scan looks for. -/
def watched : List Char := ['\'', ';', '/', '-', '(', ')']

/-- All that a step can do. -/
inductive Step : Scan → Piece → Scan → Prop
  | literal (d : Nat) (t : List Char) : Step ⟨d, false⟩ (.literal t) ⟨d, false⟩
  | digit (d : Nat) {c : Char} (hc : c.isDigit = true) : Step ⟨d, true⟩ (.char c) ⟨d, false⟩
  | minus (d : Nat) : Step ⟨d, false⟩ (.char '-') ⟨d, true⟩
  | opening (d : Nat) : Step ⟨d, false⟩ (.char '(') ⟨d + 1, false⟩
  | closing (d : Nat) : Step ⟨d + 1, false⟩ (.char ')') ⟨d, false⟩
  | quiet (d : Nat) {c : Char} (hc : c ∉ watched) : Step ⟨d, false⟩ (.char c) ⟨d, false⟩

theorem Step.eq_some {s next : Scan} {p : Piece} (h : Step s p next) : s.step p = some next := by
  cases h with
  | literal d t => rfl
  | digit d hc => simp [step, hc]
  | minus d => rfl
  | opening d => rfl
  | closing d => rfl
  | quiet d hc =>
      simp only [watched, List.mem_cons, List.not_mem_nil, or_false, not_or] at hc
      obtain ⟨hquote, hsemicolon, hslash, hdash, hopening, hclosing⟩ := hc
      simp [step, hquote, hsemicolon, hslash, hdash, hopening, hclosing]

/-- A step does nothing else. -/
theorem step_eq_some {s next : Scan} {p : Piece} (h : s.step p = some next) : Step s p next := by
  obtain ⟨d, minus⟩ := s
  cases minus with
  | true =>
      cases p with
      | literal t => cases h
      | char c =>
          by_cases hc : c.isDigit = true
          · simp only [step, hc, if_true] at h
            cases h
            exact .digit d hc
          · simp [step, hc] at h
  | false =>
      cases p with
      | literal t =>
          cases h
          exact .literal d t
      | char c =>
          by_cases hc : c ∈ watched
          · -- Of the characters that it looks for the scan takes three.
            simp only [watched, List.mem_cons, List.not_mem_nil, or_false] at hc
            rcases hc with rfl | rfl | rfl | rfl | rfl | rfl
            · cases h
            · cases h
            · cases h
            · cases h
              exact .minus d
            · cases h
              exact .opening d
            · cases d with
              | zero => cases h
              | succ d =>
                  cases h
                  exact .closing d
          · rw [(Step.quiet d hc).eq_some] at h
            cases h
            exact .quiet d hc

/-- The scan refuses what could end a statement, begin a literal or open a block comment. -/
theorem Step.ne_refused {s next : Scan} {p : Piece} (h : Step s p next) {c : Char}
    (hc : c ∈ ['\'', ';', '/']) : p ≠ .char c := by
  rintro rfl
  cases h with
  | digit d hdigit =>
      simp only [List.mem_cons, List.not_mem_nil, or_false] at hc
      rcases hc with rfl | rfl | rfl <;> cases hdigit
  | minus d => simp at hc
  | opening d => simp at hc
  | closing d => simp at hc
  | quiet d hquiet =>
      simp only [List.mem_cons, List.not_mem_nil, or_false] at hc
      rcases hc with rfl | rfl | rfl <;> simp [watched] at hquiet

/-- A step counts the parentheses. -/
theorem Step.depth_eq {s next : Scan} {p : Piece} (h : Step s p next) :
    next.depth + [p].count (.char ')') = s.depth + [p].count (.char '(') := by
  cases h with
  | literal d t => simp
  | @digit d c hc =>
      have hopening : c ≠ '(' := by
        rintro rfl
        cases hc
      have hclosing : c ≠ ')' := by
        rintro rfl
        cases hc
      simp [hopening, hclosing]
  | minus d => simp
  | opening d => simp
  | closing d => simp
  | quiet d hc =>
      simp only [watched, List.mem_cons, not_or] at hc
      simp [hc]

/-- A step deeper inside parentheses. -/
theorem Step.deepen {s next : Scan} {p : Piece} (h : Step s p next) (k : Nat) :
    Step { s with depth := s.depth + k } p { next with depth := next.depth + k } := by
  cases h with
  | literal d t => exact .literal _ t
  | digit d hc => exact .digit _ hc
  | minus d => exact .minus _
  | opening d =>
      have hdepth : d + 1 + k = d + k + 1 := by omega
      rw [hdepth]
      exact .opening _
  | closing d =>
      have hdepth : d + 1 + k = d + k + 1 := by omega
      rw [hdepth]
      exact .closing _
  | quiet d hc => exact .quiet _ hc

/-! ## A whole scan -/

/-- What the scan refuses is not in the text. -/
theorem not_mem_of_run {s last : Scan} {ps : List Piece} (h : s.run ps = some last) {c : Char}
    (hc : c ∈ ['\'', ';', '/']) : .char c ∉ ps := by
  induction ps generalizing s with
  | nil => simp
  | cons p ps ih =>
      obtain ⟨next, hstep, hrest⟩ := run_cons.mp h
      have hp := (step_eq_some hstep).ne_refused hc
      rw [List.mem_cons, not_or]
      exact ⟨hp.symm, ih hrest⟩

/-- The depth behind a text is the depth before it, with the parentheses in between. -/
theorem depth_eq_of_run {s last : Scan} {ps : List Piece} (h : s.run ps = some last) :
    last.depth + ps.count (.char ')') = s.depth + ps.count (.char '(') := by
  induction ps generalizing s with
  | nil =>
      cases h
      rfl
  | cons p ps ih =>
      obtain ⟨next, hstep, hrest⟩ := run_cons.mp h
      have hfirst := (step_eq_some hstep).depth_eq
      have hnext := ih hrest
      rw [← List.singleton_append, List.count_append, List.count_append]
      omega

/-- No line comment is opened. -/
theorem not_lineComment {s last : Scan} {ps : List Piece} (h : s.run ps = some last) :
    ¬ [.char '-', .char '-'] <:+: ps := by
  rintro ⟨xs, ys, rfl⟩
  obtain ⟨after, hxs, -⟩ := run_prefix h
  obtain ⟨before, -, hdashes⟩ := run_prefix hxs
  -- After the first of the two the scan waits for a digit, which the second is not.
  obtain ⟨next, hfirst, hrest⟩ := run_cons.mp hdashes
  obtain ⟨third, hsecond, -⟩ := run_cons.mp hrest
  cases step_eq_some hfirst with
  | digit d hc => cases hc
  | quiet d hc => simp [watched] at hc
  | minus d =>
      cases step_eq_some hsecond with
      | digit d hc => cases hc

/-- What the scan lets pass is the body of one statement. -/
theorem oneStatement {body : List Piece} (h : run ⟨0, false⟩ body = some ⟨0, false⟩) :
    OneStatement (body ++ [.char ';']) := by
  have hsemicolon : .char ';' ∉ body := not_mem_of_run h (by decide)
  have hslash : .char '/' ∉ body := not_mem_of_run h (by decide)
  have hdepth := depth_eq_of_run h
  refine ⟨?_, by simp, ?_, ?_, ?_, ?_⟩
  · simp [List.count_eq_zero.mpr hsemicolon]
  · intro qs hqs
    -- A beginning is the whole statement or a beginning of its body, over which the scan has gone.
    rcases List.prefix_concat_iff.mp hqs with rfl | hqs
    · simp
      omega
    · obtain ⟨rest, rfl⟩ := hqs
      obtain ⟨next, hnext, -⟩ := run_prefix h
      have hdepth := depth_eq_of_run hnext
      simp at hdepth
      omega
  · simp
    omega
  · rw [List.infix_concat_iff]
    rintro (hsuffix | hinfix)
    · obtain ⟨xs, hxs⟩ := hsuffix
      have hlast := congrArg List.getLast? hxs
      simp at hlast
    · exact not_lineComment h hinfix
  · intro hinfix
    have hmem := hinfix.subset List.mem_cons_self
    simp [hslash] at hmem

/-- A scan of a text deeper inside parentheses. -/
theorem run_deepen {s last : Scan} {ps : List Piece} (h : s.run ps = some last) (d : Nat) :
    run { s with depth := s.depth + d } ps = some { last with depth := last.depth + d } := by
  induction ps generalizing s with
  | nil =>
      cases h
      rfl
  | cons p ps ih =>
      obtain ⟨next, hstep, hrest⟩ := run_cons.mp h
      exact run_cons.mpr ⟨_, ((step_eq_some hstep).deepen d).eq_some, ih hrest⟩

end Scan

end SqlStore
