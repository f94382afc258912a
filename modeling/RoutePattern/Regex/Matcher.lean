import RoutePattern.Regex.Outcomes

/-! # Matching

* `Regex.run`: the first of the ways to match an expression with which the rest can go on. The
  later ways are not looked at.
* `run_eq_findSome?`: this is the first of the outcomes with which the rest goes on.
-/

namespace RoutePattern.Regex

/-- A search: from a spot, the first way to match after which the rest goes on. -/
abbrev Search := Spot → (Spot → Option Spot) → Option Spot

namespace Search

/-- A number of rounds. -/
def rounds (body : Search) : Nat → Search
  | 0, s, k => k s
  | n + 1, s, k => body s fun t => rounds body n t k

/-- Up to a number of rounds, as many as there can be preferred. -/
def manyFirst (body : Search) : Nat → Search
  | 0, s, k => k s
  | n + 1, s, k =>
    match body s fun t => if t.pos = s.pos then k t else manyFirst body n t k with
    | some t => some t
    | none => k s

/-- Up to a number of rounds, as few as there can be preferred. -/
def fewFirst (body : Search) : Nat → Search
  | 0, s, k => k s
  | n + 1, s, k =>
    match k s with
    | some t => some t
    | none => body s fun t => if t.pos = s.pos then k t else fewFirst body n t k

/-- The preferred way only. -/
def first (body : Search) : Search := fun s k => (body s some).bind k

/-- Rounds in the preferred way, up to a number, until there can be no more. -/
def exhaust (body : Search) : Nat → Spot → Spot
  | 0, s => s
  | n + 1, s =>
    match body s some with
    | none => s
    | some t => if t.pos = s.pos then t else exhaust body n t

end Search

/-- The first way to match after which the rest goes on. -/
def run : Regex → Flags → Search
  | empty, _, s, k => k s
  | char n, f, s, k => (s.eat? (sameChar f n)).bind k
  | any, f, s, k => (s.eat? fun c => f.dotAll || c != '\n').bind k
  | set negated members, f, s, k => (s.eat? (inSet f negated members)).bind k
  | anchor a, f, s, k => if a.holds f s then k s else none
  | seq q r, f, s, k => q.run f s fun t => r.run f t k
  | alt q r, f, s, k =>
    match q.run f s k with
    | some t => some t
    | none => r.run f s k
  | rep least most greed body, f, s, k =>
    match greed with
    | .greedy => Search.rounds (body.run f) least s fun t =>
        Search.manyFirst (body.run f) (spare least most t) t k
    | .lazy => Search.rounds (body.run f) least s fun t =>
        Search.fewFirst (body.run f) (spare least most t) t k
    | .possessive => Search.rounds (Search.first (body.run f)) least s fun t =>
        k (Search.exhaust (body.run f) (spare least most t) t)
  | capture n body, f, s, k => body.run f s fun t => k (Spot.capture n s t)
  | backref n, f, s, k =>
    match s.captured? n with
    | none => none
    | some t => (Spot.eatText? (sameLower f) t s).bind k
  | lookahead negated body, f, s, k =>
    match body.run f s some, negated with
    | some t, false => k (s.withCaptures t)
    | none, true => k s
    | _, _ => none
  | lookbehind back negated body, f, s, k =>
    match (s.back? back).bind fun s => body.run f s some, negated with
    | some t, false => k (s.withCaptures t)
    | none, true => k s
    | _, _ => none
  | cond n yes no, f, s, k => if (s.captured? n).isSome then yes.run f s k else no.run f s k
  | atomic body, f, s, k => Search.first (body.run f) s k
  | flagged on off body, f, s, k => body.run (f.inside on off) s k

/-! ## The search finds the first outcome -/

/-- A search finds the first of the ways after which the rest goes on. -/
def Search.Finds (b : Search) (w : Ways) : Prop := ∀ s k, b s k = (w s).findSome? k

namespace Search.Finds

variable {b : Search} {w : Ways}

theorem findSome?_flatMap (l : List Spot) (g : Ways) (k : Spot → Option Spot) :
    (l.flatMap g).findSome? k = l.findSome? fun t => (g t).findSome? k := by
  induction l with
  | nil => rfl
  | cons t r ih => cases h : (g t).findSome? k <;> simp [List.findSome?_append, h, ih]

theorem some_eq (h : b.Finds w) (s : Spot) : b s some = (w s).head? := by
  rw [h]; cases w s <;> rfl

theorem rounds (h : b.Finds w) (n : Nat) : (Search.rounds b n).Finds (w.rounds n) := by
  induction n with
  | zero => intro s k; cases hk : k s <;> simp [Search.rounds, Ways.rounds, hk]
  | succ n ih =>
    intro s k
    simp only [Search.rounds, Ways.rounds, h s, findSome?_flatMap, ih _ k]

theorem manyFirst (h : b.Finds w) (n : Nat) : (Search.manyFirst b n).Finds (w.manyFirst n) := by
  induction n with
  | zero => intro s k; cases hk : k s <;> simp [Search.manyFirst, Ways.manyFirst, hk]
  | succ n ih =>
    intro s k
    simp only [Search.manyFirst, Ways.manyFirst, List.findSome?_append, findSome?_flatMap, h s]
    have step : (fun t : Spot => if t.pos = s.pos then k t else Search.manyFirst b n t k) =
        fun t => (if t.pos = s.pos then [t] else w.manyFirst n t).findSome? k := by
      funext t
      split
      · cases hk : k t <;> simp [hk]
      · exact ih t k
    rw [step]
    cases List.findSome? _ (w s) <;> cases hk : k s <;> simp [hk]

theorem fewFirst (h : b.Finds w) (n : Nat) : (Search.fewFirst b n).Finds (w.fewFirst n) := by
  induction n with
  | zero => intro s k; cases hk : k s <;> simp [Search.fewFirst, Ways.fewFirst, hk]
  | succ n ih =>
    intro s k
    have step : (fun t : Spot => if t.pos = s.pos then k t else Search.fewFirst b n t k) =
        fun t => (if t.pos = s.pos then [t] else w.fewFirst n t).findSome? k := by
      funext t
      split
      · cases hk : k t <;> simp [hk]
      · exact ih t k
    simp only [Search.fewFirst, Ways.fewFirst, List.findSome?_cons, findSome?_flatMap, h s, step]
    cases k s <;> rfl

theorem first (h : b.Finds w) : (Search.first b).Finds w.first := by
  intro s k
  rw [Search.first, h.some_eq, Ways.first]
  cases (w s).head? with
  | none => rfl
  | some t => cases hk : k t <;> simp [hk]

theorem exhaust (h : b.Finds w) (n : Nat) (s : Spot) :
    Search.exhaust b n s = Ways.exhaust w n s := by
  induction n generalizing s with
  | zero => rfl
  | succ n ih =>
    rw [Search.exhaust, Ways.exhaust, h.some_eq]
    cases (w s).head? with
    | none => rfl
    | some t => simp only [ih]

end Search.Finds

theorem run_finds (r : Regex) (f : Flags) : Search.Finds (r.run f) (r.outcomes f) := by
  have ofOption : ∀ (o : Option Spot) (k : Spot → Option Spot),
      o.bind k = o.toList.findSome? k := by
    intro o k; cases o with
    | none => rfl
    | some t => cases hk : k t <;> simp [hk]
  have alone : ∀ (s : Spot) (k : Spot → Option Spot), k s = [s].findSome? k := by
    intro s k; cases hk : k s <;> simp [hk]
  induction r generalizing f with
  | empty => exact alone
  | char n => intro s k; exact ofOption _ k
  | any => intro s k; exact ofOption _ k
  | set negated members => intro s k; exact ofOption _ k
  | anchor a =>
    intro s k
    simp only [run, outcomes]
    split
    · exact alone s k
    · rfl
  | seq q r hq hr =>
    intro s k
    simp only [run, outcomes, hq f s, Search.Finds.findSome?_flatMap]
    congr 1; funext t; exact hr f t k
  | alt q r hq hr =>
    intro s k
    simp only [run, outcomes, hq f s, hr f s, List.findSome?_append]
    cases (q.outcomes f s).findSome? k <;> simp
  | rep least most greed body h =>
    intro s k
    have hb := h f
    cases greed with
    | greedy =>
      simp only [run, outcomes, hb.rounds least s, Search.Finds.findSome?_flatMap]
      congr 1; funext t; exact hb.manyFirst _ t k
    | «lazy» =>
      simp only [run, outcomes, hb.rounds least s, Search.Finds.findSome?_flatMap]
      congr 1; funext t; exact hb.fewFirst _ t k
    | possessive =>
      simp only [run, outcomes, hb.first.rounds least s, List.findSome?_map, hb.exhaust]
      rfl
  | capture n body h => intro s k; simp only [run, outcomes, h f s, List.findSome?_map]; rfl
  | backref n =>
    intro s k
    simp only [run, outcomes]
    cases s.captured? n with
    | none => rfl
    | some t => exact ofOption _ k
  | lookahead negated body h =>
    intro s k
    simp only [run, outcomes, (h f).some_eq]
    cases (body.outcomes f s).head? <;> cases negated <;> simp only [List.findSome?_nil]
    · exact alone s k
    · exact alone _ k
  | lookbehind back negated body h =>
    intro s k
    simp only [run, outcomes, (h f).some_eq]
    cases (s.back? back).bind fun s => (body.outcomes f s).head? <;> cases negated <;>
      simp only [List.findSome?_nil]
    · exact alone s k
    · exact alone _ k
  | cond n yes no hy hn =>
    intro s k
    simp only [run, outcomes]
    split
    · exact hy f s k
    · exact hn f s k
  | atomic body h => exact (h f).first
  | flagged on off body h => exact h _

theorem run_eq_findSome? (r : Regex) (f : Flags) (s : Spot) (k : Spot → Option Spot) :
    r.run f s k = (r.outcomes f s).findSome? k := run_finds r f s k

end RoutePattern.Regex
