import RoutePattern.Proofs.Reader.Place
import RoutePattern.Proofs.Reader.Turn
import RoutePattern.Proofs.Scan.Pieces

/-! # Where the scanner leaves a class, the reader closes a set

The scanner counts characters and pairs, the reader reads ranges, dashes and escapes. In a source
that is accepted the two stop at the same bracket.

* `OpensSet`, `ClosesSet`: at a bracket of the source, the reader gets into a set or out of it.
* `Tracks`: while the reader stands in a set, the scanner has the rest of the same class before it.
* `tracks_of_reads`: so it is all along the source. `exists_closing`: no set is left open.
* `classSize_delimits`: for every set of an accepted source the scanner ends where the reader does,
  and these are the extents that are noted.
-/

namespace RoutePattern.Regex.Reader

open Scan

/-- At the index the reader stands in no set, and the bracket there opens one. -/
def OpensSet (flags : Flags) (source : Text) (i : Nat) : Prop :=
  ∃ a r s nx, source = a ++ '[' :: r ∧ a.length = i ∧ Reads (start flags) a s ∧
    s.mode.openAt? = none ∧ step s (.plain '[') = .ok nx ∧ nx.mode.openAt? = some i

/-- The bracket just before the index `j` closes the set that was opened at the index `i`: before it
the reader stands in that set, and behind it in none. -/
def ClosesSet (flags : Flags) (source : Text) (i j : Nat) : Prop :=
  ∃ a r s nx, source = a ++ ']' :: r ∧ a.length + 1 = j ∧ Reads (start flags) a s ∧
    s.mode.openAt? = some i ∧ step s (.plain ']') = .ok nx ∧ nx.mode.openAt? = none

variable {flags : Flags} {source t : Text} {st nx : State} {q : Parsed} {i j : Nat}

theorem OpensSet.append (h : OpensSet flags t i) (u : Text) : OpensSet flags (t ++ u) i := by
  obtain ⟨a, r, s, nx, rfl, rest⟩ := h
  exact ⟨a, r ++ u, s, nx, by simp, rest⟩

theorem ClosesSet.append (h : ClosesSet flags t i j) (u : Text) :
    ClosesSet flags (t ++ u) i j := by
  obtain ⟨a, r, s, nx, rfl, rest⟩ := h
  exact ⟨a, r ++ u, s, nx, by simp, rest⟩

/-! ## In a set -/

theorem inClass_of_openAt? {m : Mode} (hf : m.Fresh) (h : m.openAt? = some i) : m.InClass := by
  have site : ∀ {s : Site}, s.openAt? = some i → s ≠ .item := by
    intro s hs he
    rw [he] at hs
    cases hs
  cases m with
  | setStart s => exact hf s rfl
  | setMember s => trivial
  | setAfter s first n => trivial
  | setDash s first n => trivial
  | hex s letter digits => exact site h
  | nameBrace s => exact site h
  | octal s digits => exact site h
  | name use start w =>
    cases use with
    | character s => exact site h
    | _ => cases h
  | _ => cases h

/-- The set that starts at `i` was opened there, and the scanner, which has gone along since, leaves
the class where it would leave it from here. -/
structure Tracks (flags : Flags) (t : Text) (st : State) (i : Nat) : Prop where
  opened : OpensSet flags t i
  along : ∃ a r, t = a ++ '[' :: r ∧ a.length = i ∧
    ∀ rest, classExtent? (r ++ rest) = (st.mode.extent? rest).map (· + r.length)

/-- One more symbol in the set. -/
theorem Tracks.step {y : Symbol} (h : Tracks flags t st i)
    (hx : ∀ rest, st.mode.extent? (y.text ++ rest) = (nx.mode.extent? rest).map (· + y.size)) :
    Tracks flags (t ++ y.text) nx i := by
  obtain ⟨opened, a, r, rfl, hi, he⟩ := h
  refine ⟨opened.append _, a, r ++ y.text, by simp, hi, fun rest => ?_⟩
  calc classExtent? (r ++ y.text ++ rest)
      = (st.mode.extent? (y.text ++ rest)).map (· + r.length) := by rw [List.append_assoc, he]
    _ = ((nx.mode.extent? rest).map (· + y.size)).map (· + r.length) := by rw [hx]
    _ = (nx.mode.extent? rest).map (· + (r ++ y.text).length) := by
      rw [Option.map_map, List.length_append, length_text, Nat.add_comm r.length]
      congr 1
      funext n
      exact Nat.add_assoc n _ _

/-- The bracket that opens a set, for the scanner as well. -/
theorem tracks_opening (hr : Reads (start flags) t st) (ho : st.mode.openAt? = none)
    (hs : step st (.plain '[') = .ok nx) (hm : nx.mode = .setStart { start := st.pos }) :
    Tracks flags (t ++ ['[']) nx st.pos := by
  have pos := pos_of_source hr
  refine ⟨⟨t, [], st, nx, rfl, pos.symm, hr, ho, hs, by rw [hm]; rfl⟩, t, [], rfl, pos.symm,
    fun rest => ?_⟩
  rw [hm]
  show classExtent? rest = (classExtent? rest).map (· + 0)
  simp

/-- Induction along the source. A name with a mark in it is the exception; it is never accepted. -/
theorem tracks_of_reads (h : Reads (start flags) t st) :
    ∀ i, st.mode.openAt? = some i → st.Spoilt ∨ Tracks flags t st i := by
  apply h.along (P := fun t st => ∀ i, st.mode.openAt? = some i → st.Spoilt ∨ Tracks flags t st i)
  · intro i hi
    cases hi
  · intro t s nx y hr ih hy hs i hi
    cases turn_step hs with
    | still same =>
      rw [same.mode] at hi
      rcases ih i hi with spoilt | tracks
      · exact .inl (spoilt_step spoilt hs)
      · have inside : s.mode.InClass := inClass_of_openAt? (fresh_of_reads hr nofun) hi
        rcases class_step hy inside hs with spoilt | ⟨-, ⟨-, hx⟩ | ⟨items, -⟩⟩
        · exact .inl spoilt
        · exact .inr (tracks.step hx)
        · rw [← same.mode, items] at hi
          cases hi
    | opens symbol outside mode _ =>
      subst symbol
      rw [mode] at hi
      obtain rfl := Option.some.inj hi
      exact .inr (tracks_opening hr outside hs mode)
    | closes _ _ _ mode _ =>
      rw [mode] at hi
      cases hi

/-! ## Where a set closes -/

/-- A bracket that closes a set is where the scanner, from the start of the set on, ends. -/
theorem size_of_closesSet (h : ClosesSet flags source i j) :
    OpensSet flags source i ∧ j = i + classSize (source.drop i) := by
  obtain ⟨a, r, s, nx, rfl, rfl, hr, hi, hs, hn⟩ := h
  have mode := (closing_of_step hi hs hn).1
  have clean : ¬ nx.Spoilt := by
    intro ⟨use, k, w, name, _⟩
    rw [mode] at name
    cases name
  rcases tracks_of_reads hr i hi with spoilt | ⟨opened, b, c, rfl, rfl, he⟩
  · exact absurd (spoilt_step spoilt hs) clean
  · refine ⟨opened.append _, ?_⟩
    have inside : s.mode.InClass := inClass_of_openAt? (fresh_of_reads hr nofun) hi
    have last : s.mode.extent? (']' :: r) = some 1 := by
      rcases class_step (by decide) inside hs with spoilt | ⟨-, ⟨still, -⟩ | ⟨-, hx⟩⟩
      · exact absurd spoilt clean
      · rw [mode] at still
        exact still.elim
      · exact hx r
    have closed : classExtent? (c ++ ']' :: r) = some (1 + c.length) := by
      rw [he, last, Option.map_some]
    have rest : (b ++ '[' :: c ++ ']' :: r).drop b.length = '[' :: (c ++ ']' :: r) := by
      rw [List.append_assoc, List.drop_left, List.cons_append]
    rw [rest, classSize_closed closed, List.length_append, List.length_cons]
    omega

/-- A set that is left is closed by a bracket. -/
theorem exists_closing (h : Reads st t nx) (hi : st.mode.openAt? = some i)
    (hn : nx.mode.openAt? = none) :
    ∃ a r s m, t = a ++ ']' :: r ∧ Reads st a s ∧ s.mode.openAt? = some i ∧
      step s (.plain ']') = .ok m ∧ m.mode.openAt? = none := by
  induction h with
  | done =>
    rw [hn] at hi
    cases hi
  | @plain st st' st'' c t hc hs _ ih =>
    rcases turn_inside hi hs with same | ⟨symbol, mode, -⟩
    · obtain ⟨a, r, s, m, rfl, reads, rest⟩ := ih (same.mode.trans hi) hn
      exact ⟨c :: a, r, s, m, rfl, .plain hc hs reads, rest⟩
    · obtain rfl := Symbol.plain.inj symbol
      exact ⟨[], t, st, st', rfl, .done st, hi, hs, by rw [mode]; rfl⟩
  | @escaped st st' st'' c t hs _ ih =>
    rcases turn_inside hi hs with same | ⟨symbol, -⟩
    · obtain ⟨a, r, s, m, rfl, reads, rest⟩ := ih (same.mode.trans hi) hn
      exact ⟨'\\' :: c :: a, r, s, m, rfl, .escaped hs reads, rest⟩
    · cases symbol

/-! ## The sets of an expression -/

/-- What is noted of the sets has been closed there. -/
theorem closesSet_of_mem (h : Reads (start flags) t st) :
    ∀ i j, (i, j) ∈ st.sets → ClosesSet flags t i j := by
  apply h.along (P := fun t st => ∀ i j, (i, j) ∈ st.sets → ClosesSet flags t i j)
  · intro i j hm
    cases hm
  · intro t s nx y hr ih _ hs i j hm
    cases turn_step hs with
    | still same =>
      rw [same.sets] at hm
      exact (ih i j hm).append _
    | opens _ _ _ sets =>
      rw [sets] at hm
      exact (ih i j hm).append _
    | closes start symbol inside mode sets =>
      subst symbol
      rw [sets] at hm
      rcases List.mem_cons.1 hm with new | old
      · obtain ⟨rfl, rfl⟩ := Prod.mk.inj new
        exact ⟨t, [], s, nx, rfl, by rw [pos_of_source hr], hr, inside, hs, by rw [mode]; rfl⟩
      · exact (ih i j old).append _

/-- What is noted stays. -/
theorem sets_of_reads {x : Nat × Nat} (h : Reads st t nx) (hx : x ∈ st.sets) : x ∈ nx.sets := by
  refine h.keeps (P := fun s => x ∈ s.sets) (fun {s s' y} hm hs => ?_) hx
  cases turn_step hs with
  | still same => rwa [same.sets]
  | opens _ _ _ sets => rwa [sets]
  | closes _ _ _ _ sets =>
    rw [sets]
    exact List.mem_cons_of_mem _ hm

/-- Where an expression ends the reader stands in no set, and the closed ones are noted. -/
theorem sets_of_finish (h : finish st = .ok q) :
    st.mode.openAt? = none ∧ q.sets = st.sets.reverse := by
  obtain ⟨s, hs, mode, -⟩ := finish_ok h
  obtain ⟨s', hs', concluded⟩ := bind_eq_ok.1 h
  obtain rfl := Except.ok.inj (hs.symm.trans hs')
  have same := still_settle hs
  constructor
  · rw [← same.mode]
    rcases mode with items | comment
    · rw [items]; rfl
    · rw [comment]; rfl
  · unfold conclude at concluded
    split at concluded
    · exact absurd concluded refuse_ne_ok
    · exact absurd concluded refuse_ne_ok
    · split at concluded
      · cases concluded
      · obtain rfl := Except.ok.inj concluded
        rw [← same.sets]

/-- In an accepted source every set that opens is closed. -/
theorem exists_closesSet (hq : read flags source = .ok q) (h : OpensSet flags source i) :
    ∃ j, ClosesSet flags source i j := by
  obtain ⟨st, hr, hf⟩ := read_eq_ok.1 hq
  obtain ⟨a, r, s, nx, rfl, -, before, -, hs, inside⟩ := h
  have behind : Reads nx r st := before.behind (by decide) hs hr
  obtain ⟨b, c, s', m, rfl, between, rest⟩ := exists_closing behind inside (sets_of_finish hf).1
  have whole : Reads (start flags) (a ++ '[' :: b) s' :=
    before.append (.plain (by decide) hs between)
  exact ⟨_, a ++ '[' :: b, c, s', m, by simp, rfl, whole, rest⟩

theorem mem_sets_iff (hq : read flags source = .ok q) :
    (i, j) ∈ q.sets ↔ ClosesSet flags source i j := by
  obtain ⟨st, hr, hf⟩ := read_eq_ok.1 hq
  rw [(sets_of_finish hf).2, List.mem_reverse]
  refine ⟨closesSet_of_mem hr i j, fun h => ?_⟩
  obtain ⟨a, r, s, nx, rfl, rfl, before, hi, hs, hn⟩ := h
  apply sets_of_reads (before.behind (by decide) hs hr)
  rw [(closing_of_step hi hs hn).2, pos_of_source before]
  exact List.mem_cons_self

/-- In an accepted source the scanner, started at a bracket that opens a set, ends just behind the
bracket that closes this set, and nowhere else is it closed. The extents of the sets that are noted
are these and no others. -/
theorem classSize_delimits (h : read flags source = .ok q) (i j : Nat) :
    (ClosesSet flags source i j ↔
      OpensSet flags source i ∧ j = i + classSize (source.drop i)) ∧
    ((i, j) ∈ q.sets ↔ ClosesSet flags source i j) := by
  refine ⟨⟨size_of_closesSet, fun ⟨opened, size⟩ => ?_⟩, mem_sets_iff h⟩
  obtain ⟨k, closed⟩ := exists_closesSet h opened
  have same : j = k := size.trans (size_of_closesSet closed).2.symm
  exact same ▸ closed

/-- Behind a comment, a set with a bracket in first place, a range whose end is escaped, a named
character, a bracket that opens nothing and a dash in last place. -/
theorem classSize_delimits_mixed :
    ∃ q, read {} "(?#[)[^]!-\\x5d\\N{DIGIT ONE}[-]x".toList = .ok q ∧
      OpensSet {} "(?#[)[^]!-\\x5d\\N{DIGIT ONE}[-]x".toList 5 ∧
      ClosesSet {} "(?#[)[^]!-\\x5d\\N{DIGIT ONE}[-]x".toList 5 30 := by
  have sets : ((read {} "(?#[)[^]!-\\x5d\\N{DIGIT ONE}[-]x".toList).toOption.map (·.sets)) =
      some [(5, 30)] := by
    decide +kernel
  rcases hq : read {} "(?#[)[^]!-\\x5d\\N{DIGIT ONE}[-]x".toList with e | q
  · rw [hq] at sets
    cases sets
  · rw [hq] at sets
    have noted : q.sets = [(5, 30)] := Option.some.inj sets
    obtain ⟨delimits, same⟩ := classSize_delimits hq 5 30
    have closed := same.1 (noted ▸ List.mem_cons_self)
    exact ⟨q, rfl, (delimits.1 closed).1, closed⟩

end RoutePattern.Regex.Reader
