/-
# Reading literals

A literal is `NULL`, a number, a text or a list of literals in parentheses.  What a literal says
about a value is less than the value: a boolean is read as `0` or `1`, and a real that is not finite
as `NULL`.  A real is told by its digits, an integer by the number that they stand for.

* `Literal.ofValue` : what the literal of a value says;
* `literal?` : reads one literal and leaves the tokens behind it;
* `Value.spells_toSql` : the literal of every value is read as what it says.
-/
import SqlStore.Proofs.Text.Numeral
import SqlStore.Proofs.Text.Token

namespace SqlStore

/-! ## Literals -/

/-- What an SQL literal says. -/
inductive Literal
  | null
  | integer (n : Int)
  /-- A real, by its digits. -/
  | real (digits : String)
  | text (s : String)
  | list (items : List Literal)
deriving Inhabited

namespace Literal

mutual

/-- What the literal of a value says. -/
def ofValue : Value → Literal
  | .integer n => integer n.toInt
  | .real x => if x.isFinite then real x.literal else null
  | .text s => text s
  | .boolean b => integer (if b then 1 else 0)
  | .list items => list (ofValues items)

/-- What the literals of several values say. -/
def ofValues : List Value → List Literal
  | [] => []
  | v :: vs => ofValue v :: ofValues vs

end

/-- What the literal of a value that may be absent says. -/
def ofOption (v : Option Value) : Literal := v.elim null ofValue

end Literal

/-! ## Numbers -/

/-- Whether a text is digits, at least one. -/
def isDigits (s : List Char) : Bool := !s.isEmpty && s.all Char.isDigit

/-- Whether a text is the exponent of a real. -/
def isExponent : List Char → Bool
  | 'e' :: '-' :: s => isDigits s
  | 'e' :: s => isDigits s
  | _ => false

/-- Whether a text can follow the first digits of a real: a point with digits, an exponent, or one
after the other. -/
def isRealTail : List Char → Bool
  | '.' :: s => (s.dropWhile Char.isDigit).isEmpty || isExponent (s.dropWhile Char.isDigit)
  | s => isExponent s

/-- The number that a text without its sign stands for. -/
def unsigned? (negative : Bool) (s : List Char) : Option Literal :=
  let whole := s.takeWhile Char.isDigit
  let tail := s.dropWhile Char.isDigit
  if whole.isEmpty then none
  else if tail.isEmpty then
    let n : Int := Nat.ofDigitChars 10 whole 0
    some (.integer (if negative then -n else n))
  else if isRealTail tail then some (.real (String.ofList (signChars negative ++ s)))
  else none

/-- The number that a text stands for. -/
def number? : List Char → Option Literal
  | '-' :: s => unsigned? true s
  | s => unsigned? false s

theorem Digits.isDigits {s : List Char} (h : Digits s) (hne : s ≠ []) : isDigits s = true := by
  simpa [SqlStore.isDigits, hne, Digits] using h

/-- A text that starts with a digit has no sign. -/
theorem number?_signChars {s : List Char} (hs : ∀ c ∈ s.head?, c.isDigit = true)
    (negative : Bool) : number? (signChars negative ++ s) = unsigned? negative s := by
  cases negative with
  | true => rfl
  | false =>
      rw [signChars, if_neg (by decide), List.nil_append, number?]
      rintro t rfl
      exact absurd (hs '-' rfl) (by decide)

/-- The digits at the start of a text that goes on with something else. -/
theorem span_digits {whole : List Char} (h : Digits whole) (tail : List Char)
    (htail : ∀ c ∈ tail.head?, c.isDigit = false) :
    (whole ++ tail).takeWhile Char.isDigit = whole ∧
      (whole ++ tail).dropWhile Char.isDigit = tail := by
  rw [List.takeWhile_append_of_pos h, List.dropWhile_append_of_pos h]
  cases tail with
  | nil => simp
  | cons c tail =>
      have hc : c.isDigit = false := htail c rfl
      simp [hc]

theorem Digits.head? {s : List Char} (h : Digits s) (t : List Char) (hne : s ≠ []) :
    ∀ c ∈ (s ++ t).head?, c.isDigit = true := by
  intro c hc
  obtain ⟨d, s, rfl⟩ := List.exists_cons_of_ne_nil hne
  rw [List.cons_append, List.head?_cons, Option.mem_some_iff] at hc
  exact h c (hc ▸ List.mem_cons_self)

/-- A natural begins with a digit. -/
theorem head?_toString (n : Nat) : ∀ c ∈ (toString n).toList.head?, c.isDigit = true := by
  have h := (digits_toString n).head? [] (toList_toString_ne_nil n)
  rwa [List.append_nil] at h

/-- A natural is digits to its end. -/
theorem span_toString (n : Nat) :
    (toString n).toList.takeWhile Char.isDigit = (toString n).toList ∧
      (toString n).toList.dropWhile Char.isDigit = [] := by
  have h := span_digits (digits_toString n) [] (by simp)
  rwa [List.append_nil] at h

/-- The text of an integer stands for the integer. -/
theorem number?_toString (n : Int) : number? (toString n).toList = some (.integer n) := by
  have hne := toList_toString_ne_nil n.natAbs
  obtain ⟨htake, hdrop⟩ := span_toString n.natAbs
  rw [toList_toString_int, number?_signChars (head?_toString n.natAbs), unsigned?]
  simp only [htake, hdrop, List.isEmpty_iff, hne, if_false, List.isEmpty_nil, if_true]
  have hval : Nat.ofDigitChars 10 (toString n.natAbs).toList 0 = n.natAbs := by simp
  rw [hval]
  congr 2
  by_cases hn : n < 0
  · simp only [hn, decide_true, if_true]
    omega
  · simp only [hn, decide_false, Bool.false_eq_true, if_false]
    omega

namespace RealText

/-- An exponent is written as one. -/
theorem isExponent_toString (n : Int) : isExponent ('e' :: (toString n).toList) = true := by
  have hd := (digits_toString n.natAbs).isDigits (toList_toString_ne_nil n.natAbs)
  rw [toList_toString_int, signChars]
  split
  · exact hd
  · rw [List.nil_append, isExponent]
    · exact hd
    · intro s hs
      have hc := head?_toString n.natAbs
      rw [hs] at hc
      exact absurd (hc '-' rfl) (by decide)

/-- What follows the first digits of a real can follow them. -/
theorem isRealTail_point_power {r : RealText} (h : r.Proper) :
    isRealTail (r.point ++ r.power) = true := by
  obtain ⟨negative, whole, fraction, exponent⟩ := r
  cases fraction with
  | some s =>
      have hs : Digits s := h.fraction s rfl
      cases exponent with
      | none =>
          obtain ⟨-, hdrop⟩ := span_digits hs [] (by simp)
          rw [List.append_nil] at hdrop
          simp only [isRealTail, point, power, Option.elim_some, Option.elim_none,
            List.append_nil, hdrop, List.isEmpty_nil, Bool.true_or]
      | some n =>
          obtain ⟨-, hdrop⟩ := span_digits hs ('e' :: (toString n).toList) (by simp)
          simp only [isRealTail, point, power, Option.elim_some, List.cons_append, hdrop,
            isExponent_toString, Bool.or_true]
  | none =>
      cases exponent with
      | none => exact absurd h.marked (by simp)
      | some n => exact isExponent_toString n

/-- What follows the first digits of a real is no digit. -/
theorem head?_point_power (r : RealText) : ∀ c ∈ (r.point ++ r.power).head?, c.isDigit = false := by
  obtain ⟨negative, whole, fraction, exponent⟩ := r
  cases fraction <;> cases exponent <;> simp [point, power]

/-- The text of a real is read as the real of these digits. -/
theorem number?_chars {r : RealText} (h : r.Proper) :
    number? r.chars = some (.real (String.ofList r.chars)) := by
  have hhead := h.whole.head? (r.point ++ r.power) h.whole_ne_nil
  obtain ⟨htake, hdrop⟩ := span_digits h.whole _ r.head?_point_power
  have htail := isRealTail_point_power h
  have hne : (r.point ++ r.power).isEmpty = false := by
    cases hp : r.point ++ r.power with
    | nil => rw [hp] at htail; cases htail
    | cons c s => rfl
  rw [chars, number?_signChars hhead, unsigned?]
  simp only [htake, hdrop, List.isEmpty_iff, h.whole_ne_nil, if_false, hne, htail, if_true,
    Bool.false_eq_true]

end RealText

/-- The characters of numbers are word characters. -/
theorem isRun_of_isNumeral {s : List Char} (h : ∀ c ∈ s, isNumeral c = true) : IsRun false s :=
  fun c hc => charRole_of_class (by decide) (h c hc)

theorem IsRun.append {operator : Bool} {s t : List Char} (hs : IsRun operator s)
    (ht : IsRun operator t) : IsRun operator (s ++ t) :=
  fun c hc => (List.mem_append.mp hc).elim (hs c) (ht c)

/-- The text of an integer is a run. -/
theorem isRun_toString (n : Int) : IsRun false (toString n).toList :=
  isRun_of_isNumeral (isNumeral_toString n)

/-- The text of a real is a run. -/
theorem RealText.isRun_chars {r : RealText} (h : r.Proper) : IsRun false r.chars :=
  isRun_of_isNumeral (isNumeral_chars h)

/-! ## Reading -/

/-- The literal that a word stands for. -/
def Literal.ofWord? (w : String) : Option Literal :=
  if w = "NULL" then some .null else number? w.toList

mutual

/-- Reads a literal inside of lists, whose items so far are given, the innermost list first and its
last item first.  Only a list that has no items yet can end here. -/
def literalIn : List (List Literal) → List Token → Option (Literal × List Token)
  | outer, .word w :: rest =>
      match Literal.ofWord? w with
      | some v => literalAfter v outer rest
      | none => none
  | outer, .text s :: rest => literalAfter (.text s) outer rest
  | outer, .opening :: rest => literalIn ([] :: outer) rest
  | [] :: outer, .closing :: rest => literalAfter (.list []) outer rest
  | _, _ => none

/-- Reads on after a literal inside of lists. -/
def literalAfter (v : Literal) : List (List Literal) → List Token → Option (Literal × List Token)
  | [], rest => some (v, rest)
  | items :: outer, .comma :: rest => literalIn ((v :: items) :: outer) rest
  | items :: outer, .closing :: rest => literalAfter (.list (v :: items).reverse) outer rest
  | _ :: _, _ => none

end

/-- Reads one literal, and leaves the tokens behind it. -/
def literal? (ts : List Token) : Option (Literal × List Token) := literalIn [] ts

/-- The text is one literal: inside of any lists it is read to its end, and no further. -/
def SpellsLiteral (s : List Char) (v : Literal) : Prop :=
  ∃ ts : List Token, Lexes s ts ∧
    ∀ outer rest, literalIn outer (ts ++ rest) = literalAfter v outer rest

/-- A word that stands for a literal. -/
theorem spellsLiteral_word {w : String} {v : Literal} (hw : IsRun false w.toList)
    (hv : Literal.ofWord? w = some v) : SpellsLiteral w.toList v := by
  have hne : w.toList ≠ [] := by
    intro h
    have hnone : Literal.ofWord? "" = none := by decide
    rw [String.toList_eq_nil_iff.mp h, hnone] at hv
    cases hv
  refine ⟨[.word w], lexes_word hw hne, fun outer rest => ?_⟩
  rw [List.singleton_append, literalIn, hv]

/-- A number is no keyword. -/
theorem spellsLiteral_number {w : String} {v : Literal} (hw : IsRun false w.toList)
    (hv : number? w.toList = some v) : SpellsLiteral w.toList v := by
  refine spellsLiteral_word hw ?_
  rw [Literal.ofWord?, if_neg, hv]
  rintro rfl
  have hnone : number? "NULL".toList = none := by decide
  rw [hnone] at hv
  cases hv

theorem spellsLiteral_null : SpellsLiteral "NULL".toList .null :=
  spellsLiteral_word (by decide) rfl

/-- The text of an integer is the integer. -/
theorem spellsLiteral_integer (n : Int) : SpellsLiteral (toString n).toList (.integer n) :=
  spellsLiteral_number (isRun_toString n) (number?_toString n)

/-- The literal of a real is its digits, or `NULL`. -/
theorem spellsLiteral_real (x : Double) :
    SpellsLiteral x.literal.toList (Literal.ofValue (.real x)) := by
  rw [Literal.ofValue]
  split
  · rename_i hx
    obtain ⟨r, hr, hchars⟩ := x.exists_realText hx
    refine spellsLiteral_number (hchars ▸ RealText.isRun_chars hr) ?_
    rw [hchars, RealText.number?_chars hr, ← hchars, String.ofList_toList]
  · rename_i hx
    rw [Double.literal, if_neg hx]
    exact spellsLiteral_null

theorem spellsLiteral_text (s : String) : SpellsLiteral (quoted s).toList (.text s) :=
  ⟨[.text s], lexes_quoted s, fun outer rest => by rw [List.singleton_append, literalIn]⟩

/-- Literals with commas between them and a parenthesis behind them end the list around them. -/
theorem lexes_items {v : Value} (vs : List Value)
    (h : ∀ w ∈ v :: vs, SpellsLiteral w.toSql.toList (Literal.ofValue w)) :
    ∃ ts : List Token,
      Lexes ((", ".intercalate ((v :: vs).map Value.toSql)).toList ++ [')']) ts ∧
      ∀ items outer rest, literalIn (items :: outer) (ts ++ rest)
        = literalAfter (.list (items.reverse ++ Literal.ofValues (v :: vs))) outer rest := by
  induction vs generalizing v with
  | nil =>
      obtain ⟨ts, hlex, hread⟩ := h v List.mem_cons_self
      refine ⟨ts ++ [.closing], ?_, fun items outer rest => ?_⟩
      · simpa using hlex.append (.mark (t := .closing) rfl .nil) (by simp)
      · rw [List.append_assoc, hread, List.singleton_append, literalAfter]
        simp [Literal.ofValues]
  | cons w vs ih =>
      obtain ⟨ts, hlex, hread⟩ := h v List.mem_cons_self
      obtain ⟨us, hlex', hread'⟩ := ih fun a ha => h a (List.mem_cons_of_mem v ha)
      refine ⟨ts ++ .comma :: us, ?_, fun items outer rest => ?_⟩
      · have hrest := Lexes.mark (c := ',') (t := .comma) rfl hlex'.space
        simpa using hlex.append hrest (by simp)
      · rw [List.append_assoc, hread, List.cons_append, literalAfter, hread']
        simp [Literal.ofValues]

/-- A list in parentheses. -/
theorem spellsLiteral_list (vs : List Value)
    (h : ∀ w ∈ vs, SpellsLiteral w.toSql.toList (Literal.ofValue w)) :
    SpellsLiteral ("(" ++ Value.joinLiterals vs ++ ")").toList (.list (Literal.ofValues vs)) := by
  cases vs with
  | nil =>
      refine ⟨[.opening, .closing], ?_, fun outer rest => ?_⟩
      · exact .mark (t := .opening) rfl (.mark (t := .closing) rfl .nil)
      · simp [literalIn, Literal.ofValues]
  | cons v vs =>
      obtain ⟨ts, hlex, hread⟩ := lexes_items vs h
      refine ⟨.opening :: ts, ?_, fun outer rest => ?_⟩
      · simpa [Value.joinLiterals] using Lexes.mark (c := '(') (t := .opening) rfl hlex
      · rw [List.cons_append, literalIn, hread]
        simp

/-- The literal of every value is read as what it says. -/
theorem Value.spells_toSql : ∀ v : Value, SpellsLiteral v.toSql.toList (Literal.ofValue v)
  | .integer n => by
      rw [Value.toSql, Literal.ofValue]
      exact spellsLiteral_integer n.toInt
  | .real x => by
      rw [Value.toSql]
      exact spellsLiteral_real x
  | .text s => by
      rw [Value.toSql, Literal.ofValue]
      exact spellsLiteral_text s
  | .boolean b => by
      rw [Value.toSql, Literal.ofValue]
      cases b
      · exact spellsLiteral_integer 0
      · exact spellsLiteral_integer 1
  | .list items => by
      rw [Value.toSql, Value.literals_eq_map, Literal.ofValue]
      exact spellsLiteral_list items fun w _ => Value.spells_toSql w

end SqlStore
