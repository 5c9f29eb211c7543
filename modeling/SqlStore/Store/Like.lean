/-
# Patterns

A pattern of `LIKE` is text in which `%` stands for any run of characters and `_` for one; every
other character stands for itself, in either case if it is an ASCII letter.

* `anyTail` : a test of the ends of a text;
* `like` : whether a text matches a pattern.
-/
namespace SqlStore

/-- Whether some end of a text passes a test. -/
def anyTail (test : List Char → Bool) : List Char → Bool
  | [] => test []
  | c :: rest => test (c :: rest) || anyTail test rest

/-- Whether a text matches a pattern. -/
def like : List Char → List Char → Bool
  | [], s => s.isEmpty
  | '%' :: p, s => anyTail (like p) s
  | '_' :: p, s => match s with
    | [] => false
    | _ :: s => like p s
  | c :: p, s => match s with
    | [] => false
    | d :: s => c.toLower == d.toLower && like p s

end SqlStore
