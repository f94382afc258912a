import Mathlib.Data.Finset.Card
import RoutePattern.Session

/-! # Who receives what is reported

A session starts with a log that nobody listens to. What becomes of it hangs on the steps so far
that set it up, and on no others.

* `named`, `Debugging`: the streams that steps have named, and whether the last of them that set up
  the log turned debugging on.
* `Session.after`, `run_at`: the session behind some steps, and the report of the step that follows.
* `Logging.Follows`: the log is as the steps so far have set it up; every step keeps this
  (`follows_step`), and so do all of them in turn (`follows_after`).
* `log_of_step`: a step's text reaches nobody, or every stream that was named, once.
-/

namespace RoutePattern

/-! ## What steps say of the log -/

/-- The stream that a step names, if it sets up the log. -/
def Step.stream? : Step → Option Text
  | .configure _ stream => some (stream.getD Logging.standardStream)
  | _ => none

/-- Whether a step turns debugging on or off, if it sets up the log. -/
def Step.debug? : Step → Option Bool
  | .configure debug _ => some debug
  | _ => none

/-- The streams that steps have named, as often as they have. -/
def named (ts : List Step) : List Text := ts.filterMap Step.stream?

/-- The last of the steps that set up the log turned debugging on. -/
def Debugging (ts : List Step) : Prop := (ts.filterMap Step.debug?).getLast? = some true

theorem named_append (ts us : List Step) : named (ts ++ us) = named ts ++ named us :=
  List.filterMap_append

/-! ## The session behind some steps -/

namespace Session

/-- The session behind a row of steps. -/
def after (s : Session) (ts : List Step) : Session := ts.foldl (fun s t => (s.step t).1) s

theorem length_run (s : Session) (ts : List Step) : (s.run ts).length = ts.length := by
  induction ts generalizing s with
  | nil => rfl
  | cons t ts ih => exact congrArg Nat.succ (ih _)

theorem run_append (s : Session) (ts us : List Step) :
    s.run (ts ++ us) = s.run ts ++ (s.after ts).run us := by
  induction ts generalizing s with
  | nil => rfl
  | cons t ts ih => exact congrArg _ (ih _)

/-- The report of a step is that of the session behind the steps in front of it. -/
theorem run_at (s : Session) (before later : List Step) (t : Step) :
    (s.run (before ++ t :: later))[before.length]? = some ((s.after before).step t).2 := by
  rw [run_append, List.getElem?_append_right (length_run s before).le, length_run, Nat.sub_self]
  rfl

end Session

/-! ## One step -/

/-- The log is as the steps have set it up. -/
structure Logging.Follows (g : Logging) (ts : List Step) : Prop where
  debug : g.debug = true ↔ Debugging ts
  nodup : g.streams.Nodup
  streams : ∀ x, x ∈ g.streams ↔ x ∈ named ts

variable {s : Session} {g : Logging} {ts : List Step}

theorem follows_start : Logging.Follows {} [] where
  debug := ⟨nofun, nofun⟩
  nodup := .nil
  streams := fun _ => Iff.rfl

/-- A step that does not set up the log says nothing of it. -/
theorem Logging.Follows.silent {t : Step} (h : g.Follows ts) (h1 : t.stream? = none)
    (h2 : t.debug? = none) : g.Follows (ts ++ [t]) where
  debug := by rw [h.debug, Debugging, Debugging, List.filterMap_append]; simp [h2]
  nodup := h.nodup
  streams := by intro x; rw [h.streams, named_append]; simp [named, h1]

theorem Logging.mem_streams_configure {debug : Bool} {stream : Option Text} {x : Text} :
    x ∈ (g.configure debug stream).streams ↔ x ∈ g.streams ∨ x = stream.getD standardStream := by
  change x ∈ (if g.streams.contains (stream.getD standardStream) then g.streams
    else g.streams ++ [stream.getD standardStream]) ↔ _
  split
  · next old =>
    have old : stream.getD standardStream ∈ g.streams := by simpa using old
    constructor
    · exact .inl
    · rintro (hx | rfl)
      · exact hx
      · exact old
  · rw [List.mem_append, List.mem_singleton]

theorem Logging.nodup_configure (h : g.streams.Nodup) (debug : Bool) (stream : Option Text) :
    (g.configure debug stream).streams.Nodup := by
  change List.Nodup (if g.streams.contains (stream.getD standardStream) then g.streams
    else g.streams ++ [stream.getD standardStream])
  split
  · exact h
  · next new =>
    have new : stream.getD standardStream ∉ g.streams := by simpa using new
    exact List.nodup_append.2 ⟨h, List.nodup_singleton _, by
      rintro x hx y hy rfl
      exact new (List.mem_singleton.1 hy ▸ hx)⟩

/-- A stream is added only if it is new, but debugging is turned on or off in any case. -/
theorem Logging.Follows.configure (h : g.Follows ts) (debug : Bool) (stream : Option Text) :
    (g.configure debug stream).Follows (ts ++ [.configure debug stream]) where
  debug := by
    rw [Debugging, List.filterMap_append]
    simp [Logging.configure, Step.debug?]
  nodup := nodup_configure h.nodup debug stream
  streams := by
    intro x
    rw [mem_streams_configure, h.streams, named_append, List.mem_append]
    exact or_congr_right List.mem_singleton.symm

/-- Every step leaves the log as it has been set up. -/
theorem follows_step (h : s.logging.Follows ts) (t : Step) :
    (s.step t).1.logging.Follows (ts ++ [t]) := by
  cases t with
  | compile options r => exact h.silent rfl rfl
  | clearKeys => exact h.silent rfl rfl
  | seedKey k => exact h.silent rfl rfl
  | configure debug stream => exact h.configure debug stream

theorem follows_after (h : s.logging.Follows ts) (us : List Step) :
    (s.after us).logging.Follows (ts ++ us) := by
  induction us generalizing s ts with
  | nil => rwa [List.append_nil]
  | cons u us ih =>
    have rest := ih (follows_step h u)
    rwa [List.append_assoc] at rest

/-! ## What is received -/

theorem line_ne_nil (r : Record) : r.line ≠ [] :=
  List.append_ne_nil_of_right_ne_nil _ (List.cons_ne_nil _ _)

/-- Records reach nobody, or with debugging on all streams, each with the same text. -/
theorem deliver_cases (g : Logging) (records : List Record) :
    g.deliver records = [] ∨ g.debug = true ∧ ∃ text, text ≠ [] ∧
      g.deliver records = g.streams.map fun x => (x, text) := by
  unfold Logging.deliver
  split
  · next h =>
    obtain ⟨debug, some⟩ : g.debug = true ∧ records ≠ [] := by simpa using h
    refine .inr ⟨debug, _, ?_, rfl⟩
    obtain ⟨r, rs, rfl⟩ := List.exists_cons_of_ne_nil some
    simp [line_ne_nil]
  · exact .inl rfl

theorem log_step_cases (s : Session) (t : Step) :
    (s.step t).2.log = [] ∨ s.logging.debug = true ∧ ∃ text, text ≠ [] ∧
      (s.step t).2.log = s.logging.streams.map fun x => (x, text) := by
  cases t with
  | compile options r => exact deliver_cases _ _
  | _ => exact .inl rfl

/-- In a session, the text of a step reaches nobody, or it reaches every stream that a step before
has named, and no other, once and the same everywhere. It reaches nobody unless the last step before
that set up the log turned debugging on. A step that sets up the log reports the level for all
streams, and how many streams there are that have been named, each counted once. -/
theorem log_of_step (before later : List Step) (t : Step) :
    ∃ report, (Session.run {} (before ++ t :: later))[before.length]? = some report ∧
      (report.log = [] ∨ Debugging before ∧ ∃ text, text ≠ [] ∧
        (report.log.map Prod.fst).Nodup ∧ (∀ x, x ∈ report.log.map Prod.fst ↔ x ∈ named before) ∧
        ∀ x ∈ report.log, x.2 = text) ∧
      ∀ debug stream, t = .configure debug stream → report.log = [] ∧
        report.answer = .configured (if debug then 10 else 40)
          (named (before ++ [t])).toFinset.card := by
  have follows : (Session.after {} before).logging.Follows ([] ++ before) :=
    follows_after follows_start before
  rw [List.nil_append] at follows
  generalize hs : Session.after {} before = s at follows
  refine ⟨_, Session.run_at {} before later t, ?_, ?_⟩
  · rw [hs]
    rcases log_step_cases s t with none | ⟨debug, text, some, log⟩
    · exact .inl none
    · have names : (s.step t).2.log.map Prod.fst = s.logging.streams := by
        simp [log, Function.comp_def]
      refine .inr ⟨follows.debug.1 debug, text, some, ?_, ?_, ?_⟩
      · rw [names]
        exact follows.nodup
      · rw [names]
        exact follows.streams
      · intro x hx
        rw [log] at hx
        obtain ⟨y, -, rfl⟩ := List.mem_map.1 hx
        rfl
  · rintro debug stream rfl
    rw [hs]
    have set := follows.configure debug stream
    have size : (s.logging.configure debug stream).streams.length =
        (named (before ++ [.configure debug stream])).toFinset.card := by
      rw [← List.toFinset_card_of_nodup set.nodup]
      congr 1
      ext x
      rw [List.mem_toFinset, List.mem_toFinset, set.streams]
    exact ⟨rfl, congrArg (Answer.configured _) size⟩

end RoutePattern
