import RoutePattern.Proofs.Nesting
import RoutePattern.Proofs.Reader.Row

/-! # Flags of templates

Flags for a whole expression count only at its very start, and there a template has its anchor. In a
row an element without templates leaves a bar at the start; behind it there are no such flags either.

* `Led`: a source that starts with an anchor or with a bar, if with anything.
* `led_source`: the sources of templates, and of rows of them.
* `flags_behind_bar`, `flags_of_led`: reading such a source leaves the flags as they are.
* `flags_of_templates`: so the options alone say which flags a pattern has.
-/

namespace RoutePattern

open Regex Regex.Reader

variable {o : Options} {r : Route} {P : Text → Prop} {p p' : Progress} {q : Pattern} {fl : Flags}
  {t : Text}

/-! ## Sources -/

/-- The text is empty, or starts with the anchor of a template or with a bar. -/
def Led (t : Text) : Prop := t = [] ∨ (∃ u, t = '^' :: u) ∨ ∃ u, t = '|' :: u

theorem Led.append_bar (h : Led t) (u : Text) : Led (t ++ '|' :: u) := by
  obtain rfl | ⟨v, rfl⟩ | ⟨v, rfl⟩ := h
  · exact .inr (.inr ⟨u, rfl⟩)
  · exact .inr (.inl ⟨_, rfl⟩)
  · exact .inr (.inr ⟨_, rfl⟩)

theorem led_source (hr : r.Only P) : Led (r.source o) := by
  induction hr with
  | template _ => exact .inr (.inl ⟨_, rfl⟩)
  | @row shape rs _ ih =>
    rw [Route.source]
    cases rs with
    | nil => exact .inl rfl
    | cons r rs =>
      have first := ih r (by simp)
      cases rs with
      | nil =>
        rw [Route.sources, Route.sources, List.intercalate_singleton]
        exact first
      | cons r' rs =>
        rw [Route.sources, Route.sources, intercalate_cons]
        exact first.append_bar _

/-- A route of templates that compiles is read from its source. -/
theorem read_of_compile (hr : r.Only P) (h : compile o r p = (.ok q, p')) :
    Pattern.read o.flags (r.source o) = .ok q := by
  cases hr with
  | template _ => exact (conclude_ok h).1
  | @row shape rs _ =>
    have all := visits_compileAll o rs p
    unfold VisitedAll at all
    rw [compile] at h
    split at h
    · next sources p₁ hs =>
      rw [hs] at all
      obtain ⟨same, -⟩ | ⟨e, none, -⟩ := all
      · obtain rfl := Except.ok.inj same
        exact (conclude_ok h).1
      · cases none
    · cases h

/-! ## Reading -/

/-- Behind a bar outside all groups nothing sets flags for the whole expression. -/
theorem flags_behind_bar {s b m z : State} {u : Text} (idle : s.Idle fl) (hfl : fl.verbose = false)
    (bar : step s (.plain '|') = .ok b) (hr : Reads b u m) (hz : settle m = .ok z) :
    z.flags = fl := by
  obtain ⟨begins, branches, -⟩ := begins_bar idle hfl bar
  have grown : Grows b z := (grows_of_reads hr).trans (grows_settle hz)
  have same : b.flags = fl ∧ b.frames = [] := by
    cases begins with
    | start => exact ⟨rfl, rfl⟩
    | bar base _ flags => exact ⟨flags, base.frames⟩
  apply Eq.trans _ same.1
  apply grown.flags.resolve_left
  -- what stands before the bar is an alternative already
  intro none
  rw [State.outermost, same.2] at none
  rw [State.rows, List.reverse_inj] at branches
  have none : b.branches = [] := none
  rw [branches] at none
  cases none

theorem flags_of_led (hfl : fl.verbose = false) (led : Led t) (h : Pattern.read fl t = .ok q) :
    q.flags = fl.settled := by
  obtain rfl | ⟨u, rfl⟩ | ⟨u, rfl⟩ := led
  · obtain ⟨-, m, reads, finished⟩ := pattern_read_eq_ok.1 h
    obtain rfl := reads_nil.1 reads
    obtain ⟨z, hz, -, -, -, flags, -⟩ := finish_ok finished
    obtain rfl : start fl = z := Except.ok.inj hz
    exact flags
  · obtain ⟨_, _, -, -, -, -, -, flags, -⟩ := Headed.ends ⟨⟨u, rfl⟩, h⟩ hfl
    exact flags
  · obtain ⟨-, m, reads, finished⟩ := pattern_read_eq_ok.1 h
    obtain ⟨b, bar, reads⟩ := (reads_plain (by decide)).1 reads
    obtain ⟨z, hz, -, -, -, flags, -⟩ := finish_ok finished
    have idle : (start fl).Idle fl := ⟨rfl, rfl, hfl, rfl, rfl⟩
    rw [flags, flags_behind_bar idle hfl bar reads hz]

/-! ## Routes -/

/-- The pattern of templates, in rows or not, has Unicode rules and disregards case unless case
counts; it has no other flags, whatever the templates hold. -/
theorem flags_of_templates (hr : r.Only fun _ => True) (h : compile o r p = (.ok q, p')) :
    q.flags = { ignoreCase := !o.sensitive, unicode := true } :=
  flags_of_led rfl (led_source hr) (read_of_compile hr h)

/-- Flags for a group stay in the group; behind an empty row the anchor is not at the start. -/
theorem flags_of_templates_group :
    ∃ q p', compile { sensitive := true }
        (.row .list [.row .tuple [], .template "/(?i:[a])/:b((?s-m:.)+)".toList]) {} = (.ok q, p') ∧
      q.flags = { ignoreCase := false, unicode := true } := by
  obtain ⟨q, p', h⟩ := exists_ok (x := compile { sensitive := true }
    (.row .list [.row .tuple [], .template "/(?i:[a])/:b((?s-m:.)+)".toList]) {}) (by decide +kernel)
  have only : (Route.row .list
      [.row .tuple [], .template "/(?i:[a])/:b((?s-m:.)+)".toList]).Only fun _ => True := by
    apply Route.Only.row
    intro r hr
    obtain rfl | hr := List.mem_cons.1 hr
    · exact .row nofun
    · obtain rfl := List.mem_singleton.1 hr
      exact .template trivial
  exact ⟨q, p', h, flags_of_templates only h⟩

end RoutePattern
