import RoutePattern.Proofs.Match.Rows
import RoutePattern.Proofs.Path.Reading
import RoutePattern.Proofs.Path.Ways

/-! # How the items of a path match

* `Spot.move`, `Spot.keep`: a spot further on, and one with a capture more.
* `Takes`, `TakesAt`: expressions for one character.
* `outcomes_lazyAt`, `outcomes_lazy`, `outcomes_chars`: the outcomes of the repeats and rows that
  paths are made of.
* `view_items`: the items of a path match as the ways of the path say, in that order.
-/

namespace RoutePattern

namespace Regex

variable {f : Flags} {s t : Spot}

/-! ## Spots -/

namespace Spot

/-- The spot behind a text, with what is left. -/
def move (s : Spot) (v r : Text) : Spot := { s with behind := v.reverse ++ s.behind, ahead := r }

/-- The spot with a text captured. -/
def keep (s : Spot) (n : Nat) (v : Text) : Spot := { s with captures := (n, v) :: s.captures }

@[simp] theorem ahead_move (s : Spot) (v r : Text) : (s.move v r).ahead = r := rfl

@[simp] theorem captures_move (s : Spot) (v r : Text) : (s.move v r).captures = s.captures := rfl

@[simp] theorem move_move (s : Spot) (v r w q : Text) :
    (s.move v r).move w q = s.move (v ++ w) q := by
  simp [move]

@[simp] theorem move_nil (s : Spot) : s.move [] s.ahead = s := rfl

@[simp] theorem capture_move (s : Spot) (n : Nat) (v r : Text) :
    Spot.capture n s (s.move v r) = (s.move v r).keep n v := by
  simp [capture, keep, move, pos]

end Spot

/-! ## Characters -/

/-- The expression matches one character that passes the test. -/
def Takes (f : Flags) (test : Char → Bool) (r : Regex) : Prop :=
  ∀ s, r.outcomes f s = (s.eat? test).toList

theorem eat?_cons {c : Char} {u : Text} {test : Char → Bool} (h : s.ahead = c :: u) :
    (s.eat? test).toList = if test c then [s.move [c] u] else [] := by
  rw [Spot.eat?, h]
  dsimp only
  split <;> rfl

theorem eat?_nil {test : Char → Bool} (h : s.ahead = []) : (s.eat? test).toList = [] := by
  rw [Spot.eat?, h]
  rfl

/-- The expression matches one character where the test holds of what lies ahead. -/
def TakesAt (f : Flags) (test : Text → Bool) (r : Regex) : Prop :=
  ∀ s, r.outcomes f s = if test s.ahead then (s.eat? fun _ => true).toList else []

theorem Takes.takesAt {test : Char → Bool} {r : Regex} (h : Takes f test r) :
    TakesAt f (fun v => v.head?.any test) r := by
  intro s
  rw [h s]
  cases ha : s.ahead with
  | nil => rw [eat?_nil ha]; rfl
  | cons c u =>
    rw [eat?_cons ha, eat?_cons ha]
    rfl

theorem sameChar_eq (hf : f.ignoreCase = false) (c d : Char) :
    sameChar f c.toNat d = (d == c) := by
  have inj : c.toNat = d.toNat ↔ d = c := by
    rw [Char.toNat_inj, eq_comm]
  rw [sameChar, hf, Bool.eq_iff_iff]
  simp [inj]

theorem takes_char (hf : f.ignoreCase = false) (c : Char) :
    Takes f (· == c) (.char c.toNat) := by
  intro s
  rw [outcomes, funext (sameChar_eq hf c)]

theorem takes_set (hf : f.ignoreCase = false) (negated : Bool) (c : Char) :
    Takes f (fun d => (d == c) != negated) (.set negated [.char c.toNat]) := by
  intro s
  have test : inSet f negated [.char c.toNat] = fun d => (d == c) != negated := by
    funext d
    simp [inSet, Member.holds, sameChar_eq hf]
  rw [outcomes, test]

theorem takes_any (hf : f.dotAll = false) : Takes f (· != '\n') .any := by
  intro s
  rw [outcomes, hf]
  rfl

/-! ## Repeats -/

theorem fewFirst_eq {test : Text → Bool} {r : Regex} (h : TakesAt f test r) {n : Nat}
    (hn : s.ahead.length < n) :
    Ways.fewFirst (r.outcomes f) n s =
      s :: (stretches test s.ahead).map fun x => s.move x.1 x.2 := by
  induction n generalizing s with
  | zero => omega
  | succ n ih =>
    rw [Ways.fewFirst, h s]
    cases ha : s.ahead with
    | nil => simp [eat?_nil ha, stretches]
    | cons c u =>
      rw [eat?_cons ha, stretches]
      split
      · have further : (s.move [c] u).pos ≠ s.pos := by simp [Spot.pos, Spot.move]
        have rest := @ih (s.move [c] u) (by simp [ha] at hn; simpa using hn)
        simp [further, rest, Function.comp_def]
      · rfl

/-- One or more characters where the test holds, as few as there can be. -/
theorem outcomes_lazyAt {test : Text → Bool} {r : Regex} (h : TakesAt f test r) (s : Spot) :
    (rep 1 none .lazy r).outcomes f s =
      (stretches test s.ahead).map fun x => s.move x.1 x.2 := by
  have one : Ways.rounds (r.outcomes f) 1 s = r.outcomes f s := List.flatMap_singleton' _
  rw [outcomes, one, h s]
  cases ha : s.ahead with
  | nil => simp [eat?_nil ha, stretches]
  | cons c u =>
    rw [eat?_cons ha, stretches]
    split
    · simp [fewFirst_eq h (Nat.lt_succ_self _), spare, Function.comp_def]
    · rfl

/-- One or more characters that pass the test, as few as there can be. -/
theorem outcomes_lazy {test : Char → Bool} {r : Regex} (h : Takes f test r) (s : Spot) :
    (rep 1 none .lazy r).outcomes f s = (runs test s.ahead).map fun x => s.move x.1 x.2 := by
  rw [runs_eq, outcomes_lazyAt h.takesAt]

/-- A row of characters. -/
theorem outcomes_chars (hf : f.ignoreCase = false) (w : Text) (s : Spot) :
    (concat (w.map fun c => .char c.toNat)).outcomes f s =
      (w.isPrefixOf? s.ahead).toList.map (s.move w) := by
  induction w generalizing s with
  | nil => rfl
  | cons c w ih =>
    rw [List.map_cons, outcomes_concat_cons, takes_char hf c s]
    cases ha : s.ahead with
    | nil => rw [eat?_nil ha]; rfl
    | cons d u =>
      rw [eat?_cons ha, List.isPrefixOf?, Bool.beq_comm]
      split
      · next hc =>
        obtain rfl : c = d := by simpa using hc
        simp [ih]
      · rfl

end Regex

/-! ## Paths -/

namespace Path

open Regex

variable {f : Flags}

/-- What lies ahead of a spot, and what has been captured. -/
def view (s : Spot) : Text × List (Nat × Text) := (s.ahead, s.captures)

/-- The captures of the groups from `n` on that hold the values. -/
def noted (n : Nat) : List (Option Text) → List (Nat × Text)
  | [] => []
  | v :: vs => noted (n + 1) vs ++ (v.map fun t => (n, t)).toList

theorem takes_slash (hf : f.ignoreCase = false) : Takes f (· == '/') (.char 47) :=
  takes_char hf '/'

theorem takes_slashSet (hf : f.ignoreCase = false) : Takes f (· == '/') (.set false [.char 47]) := by
  simpa using takes_set hf false '/'

theorem takes_noSlash (hf : f.ignoreCase = false) : Takes f (· != '/') (.set true [.char 47]) := by
  simpa [bne] using takes_set hf true '/'

theorem outcomes_value (hf : f.ignoreCase = false) (n : Nat) (s : Spot) :
    (Regex.capture n valueItem).outcomes f s =
      (runs (· != '/') s.ahead).map fun x => (s.move x.1 x.2).keep n x.1 := by
  rw [outcomes, valueItem, outcomes_lazy (takes_noSlash hf), List.map_map]
  exact List.map_congr_left fun x _ => Spot.capture_move s n x.1 x.2

/-- A slash and the group for a value. -/
theorem outcomes_slashValue (hf : f.ignoreCase = false) (n : Nat) (rs : List Regex) (s : Spot) :
    (concat (.char 47 :: .capture n valueItem :: rs)).outcomes f s =
      (values s.ahead).flatMap fun x =>
        (concat rs).outcomes f ((s.move ('/' :: x.1) x.2).keep n x.1) := by
  rw [outcomes_concat_cons, takes_slash hf s]
  cases ha : s.ahead with
  | nil => rw [eat?_nil ha]; rfl
  | cons c u =>
    rw [eat?_cons ha]
    by_cases hc : c = '/'
    · subst hc
      simp [outcomes_concat_cons, outcomes_value hf, values, List.flatMap_map]
    · simp [hc, values_of_ne hc]

/-- The group for what follows the value of a parameter with a star. -/
theorem outcomes_rest (hf : f.ignoreCase = false) (hd : f.dotAll = false) (n : Nat) (s : Spot) :
    (Regex.capture n restItem).outcomes f s =
      (rests s.ahead).map fun x => (s.move x.1 x.2).keep n x.1 := by
  have once : restItem.outcomes f s = (rests s.ahead).map fun x => s.move x.1 x.2 := by
    rw [restItem, outcomes_optional, outcomes_flagged, outcomes_concat_cons, takes_slashSet hf s]
    have same := s.move_nil
    cases ha : s.ahead with
    | nil =>
      rw [ha] at same
      simp [eat?_nil ha, rests, same]
    | cons c u =>
      rw [ha] at same
      rw [eat?_cons ha]
      by_cases hc : c = '/'
      · subst hc
        simp [outcomes_lazy (takes_any hd), rests, same, Function.comp_def]
      · simp [hc, rests_of_ne hc, same]
  rw [outcomes, once, List.map_map]
  exact List.map_congr_left fun x _ => Spot.capture_move s n x.1 x.2

theorem outcomes_perhaps (optional : Bool) (r : Regex) (s : Spot) :
    (perhaps optional r).outcomes f s = r.outcomes f s ++ if optional then [s] else [] := by
  cases optional with
  | false => simp [perhaps]
  | true => exact outcomes_optional r s

/-- The items of a path match as the ways of the path say. -/
theorem view_items (hf : f.ignoreCase = false) (hd : f.dotAll = false) (p : Path) (n : Nat)
    (s : Spot) :
    ((concat (p.items n)).outcomes f s).map view =
      (p.ways s.ahead).map fun x => (x.2, noted n x.1 ++ s.captures) := by
  induction p generalizing n s with
  | stop => rfl
  | rest name =>
    rw [items, concat_singleton, outcomes_flagged, outcomes_slashValue hf, List.map_flatMap, ways,
      List.map_flatMap]
    refine List.flatMap_congr fun x _ => ?_
    rw [concat_singleton, outcomes_rest hf hd, List.map_map, List.map_map]
    rfl
  | literal w p ih =>
    have chars : (Regex.char 47 :: w.text.map fun c => Regex.char c.toNat) =
      ('/' :: w.text).map fun c => Regex.char c.toNat := rfl
    rw [items, chars, outcomes_concat_append, outcomes_chars hf, List.map_flatMap,
      List.flatMap_map, ways, List.map_flatMap]
    exact List.flatMap_congr fun u _ => ih n _
  | param name optional p ih =>
    rw [items, outcomes_concat_cons, outcomes_perhaps, outcomes_flagged, outcomes_slashValue hf,
      List.flatMap_append, List.map_append, ways, List.map_append]
    congr 1
    · rw [List.flatMap_assoc, List.map_flatMap, List.map_flatMap]
      refine List.flatMap_congr fun x _ => ?_
      have alone : ∀ t, (concat []).outcomes f t = [t] := fun _ => rfl
      have captured : ∀ vs, noted (n + 1) vs ++ (n, x.1) :: s.captures =
          noted n (some x.1 :: vs) ++ s.captures := fun vs => by simp [noted]
      rw [alone, List.flatMap_singleton, ih, List.map_map]
      exact List.map_congr_left fun y _ => congrArg (Prod.mk y.2) (captured y.1)
    · cases optional with
      | false => rfl
      | true =>
        have captured : ∀ vs, noted n (none :: vs) = noted (n + 1) vs := fun vs => by simp [noted]
        simp [ih, captured, Function.comp_def]

theorem outcomes_stop (hm : f.multiline = false) {s : Spot} (hn : '\n' ∉ s.ahead) :
    (Regex.anchor .stop).outcomes f s = if s.ahead = [] then [s] else [] := by
  have line : s.ahead ≠ ['\n'] := by
    intro h
    exact hn (h ▸ List.mem_singleton_self _)
  simp [outcomes, Anchor.holds, hm, line]

/-- The end of the expression matches what may be left. -/
theorem view_ending (hf : f.ignoreCase = false) (hm : f.multiline = false) (strict : Bool)
    {s : Spot} (hn : '\n' ∉ s.ahead) :
    ((concat (ending strict)).outcomes f s).map view =
      if IsEnd strict s.ahead then [([], s.captures)] else [] := by
  cases strict with
  | true =>
    rw [ending]
    simp only [if_true, List.nil_append, concat_singleton, outcomes_stop hm hn]
    by_cases h : s.ahead = [] <;> simp [IsEnd, h, view]
  | false =>
    rw [ending]
    simp only [Bool.false_eq_true, if_false, List.singleton_append]
    rw [outcomes_concat_cons, outcomes_optional, takes_slash hf s, concat_singleton]
    cases ha : s.ahead with
    | nil => simp [eat?_nil ha, outcomes_stop hm hn, ha, IsEnd, view]
    | cons c u =>
      have later : '\n' ∉ u := fun h => hn (ha ▸ List.mem_cons_of_mem _ h)
      rw [eat?_cons ha]
      by_cases hc : c = '/'
      · subst hc
        have moved := @outcomes_stop f hm (s.move ['/'] u) later
        rw [Spot.ahead_move] at moved
        by_cases hu : u = []
        · subst hu
          rw [if_pos rfl] at moved
          simp [moved, outcomes_stop hm hn, ha, IsEnd, view]
        · simp [moved, outcomes_stop hm hn, ha, IsEnd, hu]
      · simp [hc, outcomes_stop hm hn, ha, IsEnd]

/-- Between the anchors items match in the ways that leave no more than may be left. -/
theorem view_between (hf : f.ignoreCase = false) (hm : f.multiline = false) (strict : Bool)
    {rs : List Regex} {u : Text} {ways : List (List (Option Text) × Text)}
    (views : ((concat rs).outcomes f (.before u)).map view = ways.map fun x => (x.2, noted 1 x.1))
    (hn : ∀ x ∈ ways, '\n' ∉ x.2) :
    ((concat (.anchor .start :: (rs ++ ending strict))).outcomes f (.before u)).map view =
      (ways.filter fun x => IsEnd strict x.2).map fun x => ([], noted 1 x.1) := by
  have start : (Regex.anchor .start).outcomes f (.before u) = [.before u] := rfl
  rw [outcomes_concat_cons, start, List.flatMap_singleton, outcomes_concat_append,
    List.map_flatMap]
  have last : ∀ t ∈ (concat rs).outcomes f (.before u),
      ((concat (ending strict)).outcomes f t).map view =
        if IsEnd strict (view t).1 then [([], (view t).2)] else [] := by
    intro t ht
    refine view_ending hf hm strict fun hl => ?_
    have mem := List.mem_map_of_mem (f := view) ht
    rw [views] at mem
    obtain ⟨x, hx, he⟩ := List.mem_map.1 mem
    obtain he : x.2 = t.ahead := congrArg Prod.fst he
    exact hn x hx (he ▸ hl)
  have kept : ∀ l : List (List (Option Text) × Text),
      (l.flatMap fun x => if IsEnd strict x.2 then [([], noted 1 x.1)] else []) =
        (l.filter fun x => IsEnd strict x.2).map fun x => (([] : Text), noted 1 x.1) := by
    intro l
    induction l with
    | nil => rfl
    | cons x l ih => by_cases h : IsEnd strict x.2 <;> simp [h, ih]
  rw [List.flatMap_congr last, ← kept]
  have spread := congrArg (List.flatMap fun y : Text × List (Nat × Text) =>
    if IsEnd strict y.1 then [(([] : Text), y.2)] else []) views
  rwa [List.flatMap_map, List.flatMap_map] at spread

/-- The expression of a path matches as the ways of the path say that leave no more than may be
left. -/
theorem view_anchored (hf : f.ignoreCase = false) (hd : f.dotAll = false)
    (hm : f.multiline = false) (strict : Bool) (p : Path) {u : Text} (hn : '\n' ∉ u) :
    ((concat (p.anchoredItems strict)).outcomes f (.before u)).map view =
      ((p.ways u).filter fun x => IsEnd strict x.2).map fun x => ([], noted 1 x.1) := by
  have views := view_items hf hd p 1 (.before u)
  simp only [Spot.before, List.append_nil] at views
  refine view_between hf hm strict views fun x hx hl => ?_
  obtain ⟨v, rfl, -⟩ := (mem_ways hn).1 hx
  exact hn (List.mem_append_right _ hl)

end Path

end RoutePattern
