import RoutePattern.Text.Word

/-! # Parameter names and modifiers

* `ParamName.read?`: `:name` at the start of a text, with a slash and a dot that may stand before it.
* `Modifiers.read`: the star and the question mark after a parameter.
-/

namespace RoutePattern

/-- `:name`, with a slash and then a dot in front where these flags say so. -/
structure ParamName where
  slash : Bool
  format : Bool
  name : Text
  deriving DecidableEq, Repr

namespace ParamName

/-- The text of a parameter's name with its marks. -/
def text (p : ParamName) : Text :=
  (if p.slash then ['/'] else []) ++ (if p.format then ['.'] else []) ++ ':' :: p.name

/-- The word after a colon. -/
def readWord? (slash format : Bool) : Text → Option ParamName
  | ':' :: r =>
    if (r.takeWhile Text.isWord).isEmpty then none
    else some ⟨slash, format, r.takeWhile Text.isWord⟩
  | _ => none

/-- The parameter name at the start of a text. -/
def read? : Text → Option ParamName
  | '/' :: '.' :: r => readWord? true true r
  | '/' :: r => readWord? true false r
  | '.' :: r => readWord? false true r
  | r => readWord? false false r

theorem text_isPrefix_of_readWord? {s f : Bool} {t : Text} {p : ParamName}
    (h : readWord? s f t = some p) :
    p.text <+: (if s then ['/'] else []) ++ (if f then ['.'] else []) ++ t := by
  unfold readWord? at h
  split at h
  · next r =>
    split at h
    · simp at h
    · simp only [Option.some.injEq] at h
      subst h
      simp only [text, List.append_assoc, List.prefix_append_right_inj, List.cons_prefix_cons,
        true_and]
      exact List.takeWhile_prefix _
  · simp at h

theorem text_isPrefix_of_read? {t : Text} {p : ParamName} (h : read? t = some p) :
    p.text <+: t := by
  unfold read? at h
  split at h <;> simpa using text_isPrefix_of_readWord? h

theorem text_length_pos (p : ParamName) : 0 < p.text.length := by
  simp only [text, List.length_append, List.length_cons]
  omega

end ParamName

/-- The marks after a parameter: a star for a rest path, a question mark if it may be missing. -/
structure Modifiers where
  star : Bool
  optional : Bool
  deriving DecidableEq, Repr

namespace Modifiers

/-- The text of the marks. -/
def text (m : Modifiers) : Text :=
  (if m.star then ['*'] else []) ++ (if m.optional then ['?'] else [])

/-- The marks at the start of a text. -/
def read : Text → Modifiers
  | '*' :: '?' :: _ => ⟨true, true⟩
  | '*' :: _ => ⟨true, false⟩
  | '?' :: _ => ⟨false, true⟩
  | _ => ⟨false, false⟩

theorem text_read_isPrefix (t : Text) : (read t).text <+: t := by
  unfold read; split <;> simp [text]

end Modifiers

end RoutePattern
