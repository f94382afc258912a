import RoutePattern.Text.Basic

/-! # Symbols

A regular expression is read in symbols: a character, or a backslash with the character after it.

* `symbols?`: the symbols of a text; none if it ends in a backslash that no character follows.
  `text_symbols?` says that they spell the text, `symbols?_append` that texts are read in turn.
-/

namespace RoutePattern.Regex

/-- A character, or a backslash with the character after it. -/
inductive Symbol
  | plain (c : Char)
  | escaped (c : Char)
  deriving DecidableEq, Repr

namespace Symbol

/-- The text of a symbol. -/
def text : Symbol → Text
  | plain c => [c]
  | escaped c => ['\\', c]

/-- The code points of a symbol. -/
def size : Symbol → Nat
  | plain _ => 1
  | escaped _ => 2

end Symbol

/-- The symbols of a text, unless a lone backslash ends it. -/
def symbols? : Text → Option (List Symbol)
  | [] => some []
  | ['\\'] => none
  | '\\' :: c :: r => (symbols? r).map (.escaped c :: ·)
  | c :: r => (symbols? r).map (.plain c :: ·)

theorem symbols?_plain {c : Char} (h : c ≠ '\\') (r : Text) :
    symbols? (c :: r) = (symbols? r).map (.plain c :: ·) := by
  conv => lhs; unfold symbols?
  split <;> simp_all

theorem text_symbols? {t : Text} {ss : List Symbol} (h : symbols? t = some ss) :
    ss.flatMap Symbol.text = t := by
  fun_induction symbols? t generalizing ss with
  | case1 => simp_all
  | case2 => simp at h
  | case3 c r ih =>
    obtain ⟨rest, hr, rfl⟩ := Option.map_eq_some_iff.1 h
    simp [Symbol.text, ih hr]
  | case4 c r _ _ ih =>
    obtain ⟨rest, hr, rfl⟩ := Option.map_eq_some_iff.1 h
    simp [Symbol.text, ih hr]

theorem symbols?_append {t u : Text} {ss : List Symbol} (h : symbols? t = some ss) :
    symbols? (t ++ u) = (symbols? u).map (ss ++ ·) := by
  fun_induction symbols? t generalizing ss with
  | case1 =>
    obtain rfl : [] = ss := by simpa using h
    simp
  | case2 => simp at h
  | case3 c r ih =>
    obtain ⟨rest, hr, rfl⟩ := Option.map_eq_some_iff.1 h
    simp only [List.cons_append, symbols?, ih hr, Option.map_map]
    rfl
  | case4 c r h1 h2 ih =>
    obtain ⟨rest, hr, rfl⟩ := Option.map_eq_some_iff.1 h
    have hc : c ≠ '\\' := Text.ne_backslash h1 h2
    rw [List.cons_append, symbols?_plain hc, ih hr, Option.map_map]
    rfl

end RoutePattern.Regex
