import RoutePattern.Regex.Spot

/-! # All ways to match

* `Regex.outcomes`: the spots where a match of an expression may end, in order of preference. What a
  repeat prefers is said by `manyFirst` and `fewFirst`; a round that matched nothing is the last.
* `outcomes_possessive`: a possessive repeat is the atomic group of the greedy one, if it asks for one
  round at most.
-/

namespace RoutePattern.Regex

/-- A way to match: from a spot, the spots where it may end, the preferred first. -/
abbrev Ways := Spot → List Spot

namespace Ways

/-- A number of rounds. -/
def rounds (body : Ways) : Nat → Ways
  | 0, s => [s]
  | n + 1, s => (body s).flatMap (rounds body n)

/-- Up to a number of rounds, as many as there can be preferred. -/
def manyFirst (body : Ways) : Nat → Ways
  | 0, s => [s]
  | n + 1, s => (body s).flatMap (fun t => if t.pos = s.pos then [t] else manyFirst body n t) ++ [s]

/-- Up to a number of rounds, as few as there can be preferred. -/
def fewFirst (body : Ways) : Nat → Ways
  | 0, s => [s]
  | n + 1, s =>
    s :: (body s).flatMap (fun t => if t.pos = s.pos then [t] else fewFirst body n t)

/-- The preferred way only. -/
def first (body : Ways) : Ways := fun s => (body s).head?.toList

/-- Rounds in the preferred way, up to a number, until there can be no more. -/
def exhaust (body : Ways) : Nat → Spot → Spot
  | 0, s => s
  | n + 1, s =>
    match (body s).head? with
    | none => s
    | some t => if t.pos = s.pos then t else exhaust body n t

theorem head?_manyFirst (body : Ways) (n : Nat) (s : Spot) :
    (manyFirst body n s).head? = some (exhaust body n s) := by
  induction n generalizing s with
  | zero => rfl
  | succ n ih =>
    rw [manyFirst, exhaust]
    cases body s with
    | nil => rfl
    | cons t ts =>
      rw [List.flatMap_cons, List.append_assoc, List.head?_append, List.head?_cons]
      dsimp only
      split
      · rfl
      · rw [ih, Option.some_or]

end Ways

/-- The rounds beyond the least number that a repeat may make from a spot. If there is no bound,
every character left allows one, and one more may match nothing. -/
def spare (least : Nat) (most : Option Nat) (s : Spot) : Nat :=
  match most with
  | some n => n - least
  | none => s.ahead.length + 1

/-- The spots where a match may end, in order of preference. -/
def outcomes : Regex → Flags → Ways
  | empty, _, s => [s]
  | char n, f, s => (s.eat? (sameChar f n)).toList
  | any, f, s => (s.eat? fun c => f.dotAll || c != '\n').toList
  | set negated members, f, s => (s.eat? (inSet f negated members)).toList
  | anchor a, f, s => if a.holds f s then [s] else []
  | seq q r, f, s => (q.outcomes f s).flatMap (r.outcomes f)
  | alt q r, f, s => q.outcomes f s ++ r.outcomes f s
  | rep least most greed body, f, s =>
    match greed with
    | .greedy => (Ways.rounds (body.outcomes f) least s).flatMap fun t =>
        Ways.manyFirst (body.outcomes f) (spare least most t) t
    | .lazy => (Ways.rounds (body.outcomes f) least s).flatMap fun t =>
        Ways.fewFirst (body.outcomes f) (spare least most t) t
    | .possessive => (Ways.rounds (Ways.first (body.outcomes f)) least s).map fun t =>
        Ways.exhaust (body.outcomes f) (spare least most t) t
  | capture n body, f, s => (body.outcomes f s).map (Spot.capture n s)
  | backref n, f, s =>
    match s.captured? n with
    | none => []
    | some t => (Spot.eatText? (sameLower f) t s).toList
  | lookahead negated body, f, s =>
    match (body.outcomes f s).head?, negated with
    | some t, false => [s.withCaptures t]
    | none, true => [s]
    | _, _ => []
  | lookbehind back negated body, f, s =>
    match (s.back? back).bind fun s => (body.outcomes f s).head?, negated with
    | some t, false => [s.withCaptures t]
    | none, true => [s]
    | _, _ => []
  | cond n yes no, f, s => if (s.captured? n).isSome then yes.outcomes f s else no.outcomes f s
  | atomic body, f, s => Ways.first (body.outcomes f) s
  | flagged on off body, f, s => body.outcomes (f.inside on off) s

/-- With more rounds to make, an atomic group goes back into an earlier one where the next fails, and
a possessive repeat does not. -/
theorem outcomes_possessive {least : Nat} (h : least ≤ 1) (most : Option Nat) (body : Regex)
    (f : Flags) (s : Spot) :
    (rep least most .possessive body).outcomes f s =
      (atomic (rep least most .greedy body)).outcomes f s := by
  simp only [outcomes, Ways.first]
  cases least with
  | zero => simp [Ways.rounds, Ways.head?_manyFirst]
  | succ n =>
    obtain rfl : n = 0 := by omega
    cases hb : body.outcomes f s with
    | nil => simp [Ways.rounds, Ways.first, hb]
    | cons t ts => simp [Ways.rounds, Ways.first, hb, Ways.head?_manyFirst]

end RoutePattern.Regex
