import RoutePattern.Proofs.Reader.Within

/-! # What reading leaves as it is

Whatever is read later, the groups that have been met keep their numbers and places, and so do the
alternatives that have ended outside all groups. Only the width of a group is noted later, when it
closes.

* `State.met`, `State.outermost`: those groups and alternatives.
* `Grows st nx`: `nx` has those of `st`, with others behind them.
* `grows_step`, `grows_of_reads`: one symbol, and a text.
* `groupless_of_finish`: an expression that has no groups asks for none.
-/

namespace RoutePattern.Regex.Reader

/-- The alternatives that have ended outside all groups, by those inside the innermost one. -/
def outermostOf (branches : List Regex) : List Frame → List Regex
  | [] => branches
  | f :: fs => outermostOf f.branches fs

/-- The alternatives that have ended outside all groups, the latest first. -/
def State.outermost (st : State) : List Regex := outermostOf st.branches st.frames

/-- The capture groups met so far. -/
def State.met (st : State) : List Group := st.groups.map MetGroup.toGroup

/-- Groups and outermost alternatives come behind those that there are. Flags for the whole
expression come in front of its first bar, and no condition asks for a group 0. -/
structure Grows (st nx : State) : Prop where
  met : st.met <+: nx.met
  outermost : st.outermost <:+ nx.outermost
  flags : st.outermost = [] ∨ nx.flags = st.flags
  asked : ∀ x ∈ nx.asked, x ∈ st.asked ∨ x.1 ≠ 0

variable {st nx s : State} {y : Symbol}

theorem Grows.of_same (hm : nx.met = st.met) (ho : nx.outermost = st.outermost)
    (hf : nx.flags = st.flags) (ha : nx.asked = st.asked) : Grows st nx where
  met := hm ▸ List.prefix_refl _
  outermost := ho ▸ List.suffix_refl _
  flags := .inr hf
  asked := fun _ hx => .inl (ha ▸ hx)

theorem Grows.refl (st : State) : Grows st st := .of_same rfl rfl rfl rfl

theorem Grows.trans (h : Grows st s) (h' : Grows s nx) : Grows st nx where
  met := h.met.trans h'.met
  outermost := h.outermost.trans h'.outermost
  flags := by
    rcases h.flags with none | first
    · exact .inl none
    · refine h'.flags.imp (fun none => ?_) fun second => second.trans first
      exact List.suffix_nil.1 (none ▸ h.outermost)
  asked := by
    intro x hx
    rcases h'.asked x hx with old | number
    · exact h.asked x old
    · exact .inr number

/-! ## Items and bars -/

theorem grows_placed {site : Site} (h : Placed st site nx) : Grows st nx := by
  cases site with
  | item => obtain ⟨r, -, rfl⟩ := h; exact .of_same rfl rfl rfl rfl
  | member s => obtain ⟨z, m, rfl⟩ := h; exact .of_same rfl rfl rfl rfl
  | rangeEnd s z m => obtain ⟨n, rfl⟩ := h; exact .of_same rfl rfl rfl rfl

theorem grows_quantify {i least : Nat} {most : Option Nat}
    (h : st.quantify i least most = .ok nx) : Grows st nx := by
  obtain ⟨r, rs, -, rfl⟩ := quantify_ok h
  exact .of_same rfl rfl rfl rfl

theorem grows_setGreed (g : Greed) : Grows st (st.setGreed g) := by
  obtain ⟨items, -, eq⟩ := setGreed_eq st g
  rw [eq]
  exact .of_same rfl rfl rfl rfl

/-- A bar inside a group adds nothing to the outermost alternatives. -/
theorem grows_bar (h : st.bar = .ok nx) : Grows st nx := by
  obtain rfl := bar_ok h
  refine ⟨List.prefix_refl _, ?_, .inr rfl, fun _ hx => .inl hx⟩
  rw [State.outermost, State.outermost]
  cases st.frames with
  | nil => exact List.suffix_cons _ _
  | cons f fs => exact List.suffix_refl _

/-! ## Groups -/

theorem grows_enterCapture (start : Nat) (name : Option Text) :
    Grows st (st.enterCapture start name) where
  met := by
    rw [State.met, State.met, State.enterCapture, List.map_append]
    exact List.prefix_append _ _
  outermost := List.suffix_refl _
  flags := .inr rfl
  asked := fun _ hx => .inl hx

theorem met_noteClosed (o : Opener) : (st.noteClosed o).met = st.met := by
  cases o with
  | capture n =>
    let note : MetGroup → MetGroup := fun g =>
      { g with width := some (st.body.width st.groupWidth) }
    have same : ∀ g, id g.toGroup = (note g).toGroup := fun _ => rfl
    have widths := map_modify same st.groups (n - 1)
    rw [List.modify_id] at widths
    exact widths.symm
  | _ => rfl

theorem grows_close (h : st.close = .ok nx) : Grows st nx := by
  unfold State.close at h
  cases hf : st.frames with
  | nil =>
    rw [hf] at h
    exact absurd h refuse_ne_ok
  | cons f fs =>
    rw [hf] at h
    obtain rfl := Except.ok.inj h
    refine .of_same (met_noteClosed f.opener) ?_ ?_ ?_
    · rw [State.outermost, State.outermost, hf]
      rfl
    · cases f.opener <;> rfl
    · cases f.opener <;> rfl

/-- Flags for the whole expression stand where nothing has been read. -/
theorem grows_setFlags {start : Nat} {on : Flags} (h : setFlags st start on = .ok nx) :
    Grows st nx := by
  obtain ⟨⟨frames, branches, -⟩, rfl⟩ := setFlags_ok h
  refine ⟨List.prefix_refl _, List.suffix_refl _, .inl ?_, fun _ hx => .inl hx⟩
  rw [State.outermost, frames, branches]
  rfl

theorem grows_enterCondition {start : Nat} {name : Text} {index : Nat}
    (h : enterCondition st start name index = .ok nx) : Grows st nx := by
  obtain ⟨⟨number, s⟩, ask, checked⟩ := bind_eq_ok.1 h
  obtain ⟨_, -, rfl⟩ := map_eq_ok.1 checked
  obtain ⟨-, asked, rfl, new⟩ := askForGroup_ok ask
  exact ⟨List.prefix_refl _, List.suffix_refl _, .inr rfl, new⟩

/-! ## One symbol -/

theorem grows_readItem {c : Char} (h : readItem st c = .ok nx) : Grows st nx := by
  rcases readItem_ok h with ⟨-, -, rfl⟩ | ⟨-, -, rfl⟩ | ⟨-, hx⟩ | ⟨-, hx⟩ | ⟨-, rfl⟩ | ⟨-, rfl⟩ |
    ⟨-, rfl⟩ | ⟨-, least, most, hx⟩ | ⟨-, -, r, -, rfl⟩
  · exact .refl _
  · exact .of_same rfl rfl rfl rfl
  · exact grows_bar hx
  · exact grows_close hx
  · exact .of_same rfl rfl rfl rfl
  · exact .of_same rfl rfl rfl rfl
  · exact .of_same rfl rfl rfl rfl
  · exact grows_quantify hx
  · exact .of_same rfl rfl rfl rfl

theorem grows_readItemEscape {c : Char} (h : readItemEscape st c = .ok nx) : Grows st nx := by
  rcases readItemEscape_ok h with ⟨r, -, rfl⟩ | rfl | rfl | rfl | ⟨-, rfl⟩ <;>
    exact .of_same rfl rfl rfl rfl

theorem grows_readSetEscape {site : Site} {c : Char} (h : readSetEscape st site c = .ok nx) :
    Grows st nx := by
  rcases readSetEscape_ok h with hp | rfl | rfl | rfl
  · exact grows_placed hp
  all_goals exact .of_same rfl rfl rfl rfl

theorem grows_readSetMember {m : OpenSet} (h : readSetMember st m y = .ok nx) : Grows st nx := by
  rcases readSetMember_ok h with ⟨c, -, hx⟩ | ⟨-, -, rfl⟩ | ⟨c, -, -, rfl⟩
  · exact grows_readSetEscape hx
  · exact .of_same rfl rfl rfl rfl
  · exact .of_same rfl rfl rfl rfl

theorem grows_readName {use : NameUse} {start : Nat} {w : Text}
    (h : readName st use start w y = .ok nx) : Grows st nx := by
  rcases readName_ok h with ⟨-, -, hc⟩ | ⟨-, rfl⟩
  · cases use with
    | define =>
      obtain ⟨-, rfl⟩ := defineGroup_ok hc
      exact grows_enterCapture _ _
    | refer =>
      obtain ⟨-, n, rfl⟩ := referToGroup_ok hc
      exact .of_same rfl rfl rfl rfl
    | condition => exact grows_enterCondition hc
    | character site => exact grows_placed (placeNamed_ok hc).2
  · exact .of_same rfl rfl rfl rfl

theorem grows_settle (h : settle st = .ok nx) : Grows st nx := by
  cases settle_ok h with
  | repeated _ => exact .of_same rfl rfl rfl rfl
  | braces _ => exact .of_same rfl rfl rfl rfl
  | opened _ => exact grows_enterCapture _ _
  | octal _ placed => exact grows_placed placed
  | reference n _ => exact .of_same rfl rfl rfl rfl
  | settled _ => exact .refl _

theorem grows_extend (h : extend? st y = some (.ok nx)) : Grows st nx := by
  cases extend?_ok h with
  | greed g _ _ => exact grows_setGreed g
  | braces _ read =>
    obtain ⟨c, -, -, ⟨lo, hi, rfl⟩ | ⟨lo, hi, hx⟩⟩ := extendBraces?_ok read
    · exact .of_same rfl rfl rfl rfl
    · exact grows_quantify hx
  | opened _ => exact .of_same rfl rfl rfl rfl
  | octal _ read =>
    obtain ⟨c, -, -, rfl | hp⟩ := extendOctal?_ok read
    · exact .of_same rfl rfl rfl rfl
    · exact grows_placed hp
  | reference _ read =>
    obtain ⟨c, -, -, rfl | rfl | ⟨r, -, rfl⟩⟩ := extendReference?_ok read <;>
      exact .of_same rfl rfl rfl rfl

theorem grows_react (hn : st.mode.IsSettled) (h : react st y = .ok nx) : Grows st nx := by
  cases react_ok hn h with
  | item _ read => exact grows_readItem read
  | escape _ read => exact grows_readItemEscape read
  | lineEnd _ => exact .of_same rfl rfl rfl rfl
  | inLine _ _ => exact .refl _
  | commentEnd _ => exact .of_same rfl rfl rfl rfl
  | inComment _ _ => exact .refl _
  | header _ read =>
    rcases readHeader_ok read with ⟨c, o, -, -, rfl⟩ | ⟨-, rfl⟩ | ⟨-, rfl⟩ | ⟨-, rfl⟩ | ⟨-, rfl⟩ |
      ⟨-, rfl⟩ | ⟨c, f, -, -, rfl⟩ <;> exact .of_same rfl rfl rfl rfl
  | headerP _ read =>
    obtain ⟨-, rfl⟩ | ⟨-, rfl⟩ := readHeaderP_ok read <;> exact .of_same rfl rfl rfl rfl
  | headerAngle _ read =>
    obtain ⟨-, rfl⟩ | ⟨-, rfl⟩ := readHeaderAngle_ok read <;> exact .of_same rfl rfl rfl rfl
  | name _ read => exact grows_readName read
  | flagsOn _ read =>
    rcases readFlagsOn_ok read with ⟨-, hx⟩ | ⟨-, rfl⟩ | ⟨-, rfl⟩ | ⟨c, f, -, -, rfl⟩
    · exact grows_setFlags hx
    all_goals exact .of_same rfl rfl rfl rfl
  | flagsDash _ read =>
    obtain ⟨c, f, -, -, rfl⟩ := readFlagsDash_ok read
    exact .of_same rfl rfl rfl rfl
  | flagsOff _ read =>
    rcases readFlagsOff_ok read with ⟨-, rfl⟩ | ⟨c, f, -, -, rfl⟩ <;>
      exact .of_same rfl rfl rfl rfl
  | setStart _ read =>
    obtain ⟨-, rfl⟩ | ⟨-, hx⟩ := readSetStart_ok read
    · exact .of_same rfl rfl rfl rfl
    · exact grows_readSetMember hx
  | setMember _ read => exact grows_readSetMember read
  | setAfter _ read =>
    obtain ⟨-, rfl⟩ | ⟨-, hx⟩ := readSetAfter_ok read
    · exact .of_same rfl rfl rfl rfl
    · exact grows_readSetMember hx
  | setDash _ read =>
    rcases readSetDash_ok read with ⟨c, -, hx⟩ | ⟨-, t, -, rfl⟩ | ⟨c, r, -, -, rfl⟩
    · exact grows_readSetEscape hx
    · exact .of_same rfl rfl rfl rfl
    · exact .of_same rfl rfl rfl rfl
  | hex _ read =>
    obtain ⟨c, -, -, rfl | hp⟩ := extendHex_ok read
    · exact .of_same rfl rfl rfl rfl
    · exact grows_placed hp
  | nameBrace _ => exact .of_same rfl rfl rfl rfl

theorem grows_step (h : step st y = .ok nx) : Grows st nx := by
  obtain ⟨s, ht, rfl⟩ := step_ok h
  have moved : Grows s { s with pos := st.pos + y.size } := .of_same rfl rfl rfl rfl
  rcases take_ok ht with he | ⟨-, s', settled, reacted⟩
  · exact (grows_extend he).trans moved
  · have reacts := grows_react (settled_of_settle settled) reacted
    exact ((grows_settle settled).trans reacts).trans moved

/-! ## A text -/

theorem grows_of_reads {t : Text} (h : Reads st t nx) : Grows st nx :=
  h.keeps (P := Grows st) (fun grown hs => grown.trans (grows_step hs)) (.refl st)

/-- Where an expression without groups ends, none has been asked for. -/
theorem groupless_of_finish {fl : Flags} {t : Text} {q : Parsed} (hr : Reads (start fl) t st)
    (hs : settle st = .ok s) (hq : finish st = .ok q) (hg : q.groups = []) : s.Groupless := by
  obtain ⟨_, settled, concluded⟩ := bind_eq_ok.1 hq
  obtain rfl := Except.ok.inj (hs.symm.trans settled)
  have grown := (grows_of_reads hr).trans (grows_settle hs)
  unfold conclude at concluded
  split at concluded
  · simp at concluded
  · simp at concluded
  · next met =>
    split at concluded
    · cases concluded
    · obtain rfl := Except.ok.inj concluded
      have none : s.groups = [] := List.map_eq_nil_iff.1 hg
      refine ⟨none, List.eq_nil_iff_forall_not_mem.2 fun x hx => ?_⟩
      rcases grown.asked x hx with old | number
      · exact List.not_mem_nil old
      · have reached := List.find?_eq_none.1 met x (List.mem_reverse.2 hx)
        rw [none] at reached
        simp at reached
        exact number reached

end RoutePattern.Regex.Reader
