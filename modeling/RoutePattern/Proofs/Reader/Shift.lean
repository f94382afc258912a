import RoutePattern.Proofs.Reader.Within

/-! # Reading behind another text

Each function of the reader does behind another text what it does alone (`Shifted`, `Carries`).

* `Shifted.readItem`, `Shifted.readSetMember`, `Shifted.readHeader`, ...: one lemma a function.
* `shifted_settle`, `shifted_step`, `shifted_reads`: the end of a construct, one symbol, a text.
* `shifted_finish`: what is accepted behind a text that has no groups is accepted alone.
* `isBase_begun`: every text may be read behind an anchor.
-/

namespace RoutePattern.Regex.Reader

/-- A group is being referred to by its name or number. -/
def Mode.Refers : Mode → Prop
  | .name .refer _ _ => True
  | .name .condition _ _ => True
  | .reference _ => True
  | _ => False

/-- Both results are missing, or the second carries the first. -/
def CarriesIf (fl : Flags) (c : State) : Option (Except Error State) → Option (Except Error State) → Prop
  | none, none => True
  | some x, some x' => Carries fl c x x'
  | _, _ => False

theorem CarriesIf.ite {fl : Flags} {c : State} {p : Prop} [Decidable p]
    {x x' z z' : Option (Except Error State)} (h : p → CarriesIf fl c x x')
    (h' : ¬ p → CarriesIf fl c z z') :
    CarriesIf fl c (if p then x else z) (if p then x' else z') := by
  by_cases hp : p
  · rw [if_pos hp, if_pos hp]
    exact h hp
  · rw [if_neg hp, if_neg hp]
    exact h' hp

namespace Shifted

variable {fl : Flags} {c a st : State}

/-! ## Escapes -/

theorem closeRange (h : Shifted fl c a st) (s : OpenSet) (first last : Symbol) (m n : Member)
    (stop stop' : Nat) :
    Carries fl c (a.closeRange s first m last n stop)
      (st.closeRange (s.shift c.pos) first m last n stop') := by
  unfold State.closeRange
  cases m with
  | char x =>
    cases n with
    | char z =>
      refine .ite (fun _ => .refuse) fun _ => .ok ?_
      exact h.withMode (.setMember (s.add (.range x z))) nofun
    | _ => exact .refuse
  | _ => exact .refuse

theorem placeMember (h : Shifted fl c a st) (site : Site) (y : Symbol) (m : Member)
    (stop stop' : Nat) :
    Carries fl c (a.placeMember site y m stop) (st.placeMember (site.shift c.pos) y m stop') := by
  cases site with
  | item => exact .ok (h.push (.set false [m]))
  | member s => exact .ok (h.withMode (.setAfter s y m) nofun)
  | rangeEnd s first n => exact h.closeRange s first y n m stop stop'

theorem placeChar (h : Shifted fl c a st) (site : Site) (y : Symbol) (code stop stop' : Nat) :
    Carries fl c (a.placeChar site y code stop) (st.placeChar (site.shift c.pos) y code stop') := by
  cases site with
  | item => exact .ok (h.push (.char code))
  | member s => exact h.placeMember (.member s) y (.char code) stop stop'
  | rangeEnd s first n => exact h.placeMember (.rangeEnd s first n) y (.char code) stop stop'

theorem placeReference (hc : c.Groupless) (h : Shifted fl c a st) (digits : Text)
    (stop stop' : Nat) :
    Carries fl c (a.placeReference digits stop) (st.placeReference digits stop') := by
  have same := move_eq hc
  have next : st.nextGroup = a.nextGroup := (nextGroup_move h).trans (same _)
  have closed := isClosed_move h (numeral 10 digits)
  have checked := @checkBehind_move fl c a st h (numeral 10 digits) stop stop'
  rw [same] at closed checked
  unfold State.placeReference
  dsimp only
  rw [next, closed]
  refine .ite (fun _ => .ite (fun _ => ?_) fun _ => .refuse) fun _ => .refuse
  intro nx hx
  obtain ⟨_, hb, rfl⟩ := map_eq_ok.1 hx
  rw [checked hb]
  have pushed := h.push (.backref (numeral 10 digits))
  rw [renumber, same] at pushed
  exact ⟨_, rfl, pushed⟩

theorem readItemEscape (h : Shifted fl c a st) (d : Char) :
    Carries fl c (Reader.readItemEscape a d) (Reader.readItemEscape st d) := by
  unfold Reader.readItemEscape
  cases anchorEscape? d with
  | some x => exact .ok (h.push (.anchor x))
  | none =>
    cases categoryEscape? d with
    | some m => exact .ok (h.push (.set false [m]))
    | none =>
      cases controlEscape? d with
      | some n => exact .ok (h.push (.char n))
      | none =>
        cases hexDigits? d with
        | some n => exact .ok (h.withMode (.hex .item d []) nofun)
        | none =>
          refine .ite (fun _ => .ok (h.withMode (.nameBrace .item) nofun)) fun _ => ?_
          refine .ite (fun _ => .ok (h.withMode (.octal .item [d]) nofun)) fun _ => ?_
          refine .ite (fun _ => .ok (h.withMode (.reference [d]) nofun)) fun _ => ?_
          exact .ite (fun _ => .refuse) fun _ => .ok (h.push (.char d.toNat))

theorem readSetEscape (h : Shifted fl c a st) (site : Site) (d : Char) :
    Carries fl c (Reader.readSetEscape a site d) (Reader.readSetEscape st (site.shift c.pos) d) := by
  unfold Reader.readSetEscape
  cases categoryEscape? d with
  | some m => exact h.placeMember site _ m _ _
  | none =>
    cases controlEscape? d with
    | some n => exact h.placeChar site _ n _ _
    | none =>
      cases hexDigits? d with
      | some n => exact .ok (h.withMode (.hex site d []) nofun)
      | none =>
        refine .ite (fun _ => h.placeChar site _ 8 _ _) fun _ => ?_
        refine .ite (fun _ => .ok (h.withMode (.nameBrace site) nofun)) fun _ => ?_
        refine .ite (fun _ => .ok (h.withMode (.octal site [d]) nofun)) fun _ => ?_
        exact .ite (fun _ => .refuse) fun _ => h.placeChar site _ _ _ _

theorem extendHex (h : Shifted fl c a st) (site : Site) (letter : Char) (digits : Text) (y : Symbol) :
    Carries fl c (Reader.extendHex a site letter digits y)
      (Reader.extendHex st (site.shift c.pos) letter digits y) := by
  unfold Reader.extendHex
  cases y with
  | escaped d => exact .refuse
  | plain d =>
    refine .ite (fun _ => .ite (fun _ => ?_) fun _ => .ite (fun _ => .error) fun _ =>
      .ite (fun _ => .refuse) fun _ => ?_) fun _ => .refuse
    · exact .ok (h.withMode (.hex site letter (digits ++ [d])) nofun)
    · exact h.placeChar site _ _ _ _

theorem extendOctal? (h : Shifted fl c a st) (site : Site) (digits : Text) (y : Symbol) :
    CarriesIf fl c (Reader.extendOctal? a site digits y)
      (Reader.extendOctal? st (site.shift c.pos) digits y) := by
  unfold Reader.extendOctal?
  cases y with
  | escaped d => trivial
  | plain d =>
    refine .ite (fun _ => .ite (fun _ => ?_) fun _ => .ite (fun _ => ?_) fun _ => ?_) fun _ => trivial
    · exact .ok (h.withMode (.octal site (digits ++ [d])) nofun)
    · exact .refuse
    · exact h.placeChar site _ _ _ _

theorem extendReference? (hc : c.Groupless) (h : Shifted fl c a st) (digits : Text) (y : Symbol) :
    CarriesIf fl c (Reader.extendReference? a digits y) (Reader.extendReference? st digits y) := by
  unfold Reader.extendReference?
  cases y with
  | escaped d => trivial
  | plain d =>
    refine .ite (fun _ => .ite (fun _ => trivial) fun _ => .ite (fun _ => ?_) fun _ => ?_) fun _ => ?_
    · exact .ok (h.withMode (.reference (digits ++ [d])) nofun)
    · exact h.placeReference hc (digits ++ [d]) _ _
    · exact h.extendOctal? .item digits (.plain d)

/-! ## Sets -/

theorem closeSet (h : Shifted fl c a st) (s : OpenSet) :
    Shifted fl c (a.closeSet s) (st.closeSet (s.shift c.pos)) := by
  have pushed := h.push (.set s.negated s.members.reverse)
  obtain ⟨y, asked, same, eq⟩ := pushed.eq
  refine ⟨⟨y, asked, same, ?_⟩, pushed.flags, pushed.numbered, pushed.ground, pushed.comment⟩
  have closed : st.push (.set s.negated s.members.reverse) =
    c.after y asked (a.push (.set s.negated s.members.reverse)) := eq
  have sets : st.sets = a.sets.map (fun x => (c.pos + x.1, c.pos + x.2)) ++ c.sets :=
    congrArg State.sets eq
  rw [State.closeSet, State.closeSet, h.pos]
  dsimp only [OpenSet.shift]
  rw [closed, sets]
  rfl

theorem readSetMember (h : Shifted fl c a st) (s : OpenSet) (y : Symbol) :
    Carries fl c (Reader.readSetMember a s y) (Reader.readSetMember st (s.shift c.pos) y) := by
  cases y with
  | escaped d => exact h.readSetEscape (.member s) d
  | plain d =>
    refine .ite (fun _ => .ok (h.closeSet s)) fun _ => ?_
    exact .ok (h.withMode (.setAfter s (.plain d) (.char d.toNat)) nofun)

theorem readSetStart (h : Shifted fl c a st) (s : OpenSet) (y : Symbol) :
    Carries fl c (Reader.readSetStart a s y) (Reader.readSetStart st (s.shift c.pos) y) := by
  refine .ite (fun _ => ?_) fun _ => h.readSetMember s y
  exact .ok (h.withMode (.setMember { s with negated := true }) nofun)

theorem readSetAfter (h : Shifted fl c a st) (s : OpenSet) (first : Symbol) (m : Member) (y : Symbol) :
    Carries fl c (Reader.readSetAfter a s first m y)
      (Reader.readSetAfter st (s.shift c.pos) first m y) := by
  refine .ite (fun _ => ?_) fun _ => h.readSetMember (s.add m) y
  exact .ok (h.withMode (.setDash s first m) nofun)

theorem readSetDash (h : Shifted fl c a st) (s : OpenSet) (first : Symbol) (m : Member) (y : Symbol) :
    Carries fl c (Reader.readSetDash a s first m y)
      (Reader.readSetDash st (s.shift c.pos) first m y) := by
  cases y with
  | escaped d => exact h.readSetEscape (.rangeEnd s first m) d
  | plain d =>
    refine .ite (fun _ => ?_) fun _ => h.closeRange s first _ m _ _ _
    exact .ok (h.closeSet ((s.add m).add (.char 45)))

/-! ## Flags -/

theorem turnOn (h : Shifted fl c a st) (start : Nat) (on : Flags) (f : Flag) :
    Carries fl c (Reader.turnOn a start on f) (Reader.turnOn st (c.pos + start) on f) := by
  refine .ite (fun _ => .refuse) fun _ => .ite (fun _ => .refuse) fun _ => ?_
  exact .ok (h.withMode (.flagsOn start (on.insert f)) nofun)

theorem turnOff (h : Shifted fl c a st) (start : Nat) (on off : Flags) (f : Flag) :
    Carries fl c (Reader.turnOff a start on off f) (Reader.turnOff st (c.pos + start) on off f) := by
  refine .ite (fun _ => .refuse) fun _ => ?_
  exact .ok (h.withMode (.flagsOff start on (off.insert f)) nofun)

theorem enterFlagged (h : Shifted fl c a st) (start : Nat) (on off : Flags) :
    Shifted fl c (Reader.enterFlagged a start on off)
      (Reader.enterFlagged st (c.pos + start) on off) := by
  rw [Reader.enterFlagged, Reader.enterFlagged, h.verbose]
  exact h.enter (o := .flagged on off) (fun _ h => by cases h) start _

/-- Flags for the whole expression are refused behind another text. -/
theorem setFlags (hc : c.IsBase) (h : Shifted fl c a st) (start start' : Nat) (on : Flags) :
    Carries fl c (Reader.setFlags a start on) (Reader.setFlags st start' on) := by
  intro nx hx
  obtain ⟨⟨frames, branches, items⟩, -⟩ := setFlags_ok hx
  obtain ⟨y, asked, same, rfl⟩ := h.eq
  have own : a.frames = [] := by
    cases hf : a.frames with
    | nil => rfl
    | cons f fs =>
      rw [State.after, hf] at frames
      cases frames
  rw [State.after, own] at items branches
  have row : c.ownBranches y a.branches = [] ∧ c.branches = [] := by
    simpa [State.branchesAfter] using branches
  have none : a.branches = [] := by
    cases hb : a.branches with
    | nil => rfl
    | cons b bs =>
      rw [hb] at row
      cases bs <;> cases row.1
  rcases hc.begun with begun | begun
  · rw [none] at items
    simp [State.itemsAfter, begun] at items
  · exact absurd row.2 begun

theorem readFlagsOn (hc : c.IsBase) (h : Shifted fl c a st) (start : Nat) (on : Flags) (y : Symbol) :
    Carries fl c (Reader.readFlagsOn a start on y) (Reader.readFlagsOn st (c.pos + start) on y) := by
  refine .ite (fun _ => h.setFlags hc _ _ on) fun _ => .ite (fun _ => ?_) fun _ => ?_
  · refine .ite (fun _ => .refuse) fun _ => .ite (fun _ => ?_) fun _ => ?_
    · exact .ok (h.enterFlagged start on {})
    · exact .ok (h.withMode (.flagsDash start on) nofun)
  · cases flagOf? y with
    | some f => exact h.turnOn start on f
    | none => exact .refuse

theorem readFlagsDash (h : Shifted fl c a st) (start : Nat) (on : Flags) (y : Symbol) :
    Carries fl c (Reader.readFlagsDash a start on y)
      (Reader.readFlagsDash st (c.pos + start) on y) := by
  unfold Reader.readFlagsDash
  cases flagOf? y with
  | some f => exact h.turnOff start on {} f
  | none => exact .refuse

theorem readFlagsOff (h : Shifted fl c a st) (start : Nat) (on off : Flags) (y : Symbol) :
    Carries fl c (Reader.readFlagsOff a start on off y)
      (Reader.readFlagsOff st (c.pos + start) on off y) := by
  refine .ite (fun _ => ?_) fun _ => ?_
  · refine .ite (fun _ => .refuse) fun _ => .ite (fun _ => .refuse) fun _ => ?_
    exact .ok (h.enterFlagged start on off)
  · cases flagOf? y with
    | some f => exact h.turnOff start on off f
    | none => exact .refuse

/-! ## Headers -/

theorem readHeaderAngle (h : Shifted fl c a st) (start : Nat) (y : Symbol) :
    Carries fl c (Reader.readHeaderAngle a start y)
      (Reader.readHeaderAngle st (c.pos + start) y) := by
  refine .ite (fun _ => .ok (h.enterLookbehind start false)) fun _ => ?_
  exact .ite (fun _ => .ok (h.enterLookbehind start true)) fun _ => .refuse

theorem readHeaderP (h : Shifted fl c a st) (start : Nat) (y : Symbol) :
    Carries fl c (Reader.readHeaderP a start y) (Reader.readHeaderP st (c.pos + start) y) := by
  refine .ite (fun _ => .ok (h.withMode (.name .define start []) nofun)) fun _ => ?_
  exact .ite (fun _ => .ok (h.withMode (.name .refer start []) nofun)) fun _ => .refuse

/-- A group whose header is one mark. -/
theorem enterPlain (h : Shifted fl c a st) {o : Opener} (ho : ∀ n, o ≠ .capture n) (start : Nat) :
    Shifted fl c (a.enter o start a.verbose)
      (st.enter (o.renumber c.move) (c.pos + start) st.verbose) := by
  rw [h.verbose]
  exact h.enter (fun n hn => absurd hn (ho n)) start a.verbose

theorem readHeader (h : Shifted fl c a st) (start : Nat) (y : Symbol) :
    Carries fl c (Reader.readHeader a start y) (Reader.readHeader st (c.pos + start) y) := by
  unfold Reader.readHeader
  split
  · exact .ok (h.enterFlagged start {} {})
  · exact .ok (h.withMode (.headerP start) nofun)
  · exact .ok (h.withMode (.headerAngle start) nofun)
  · exact .ok (h.enterPlain (o := .lookahead false) nofun start)
  · exact .ok (h.enterPlain (o := .lookahead true) nofun start)
  · exact .ok (h.enterPlain (o := .atomic) nofun start)
  · exact .ok (h.withMode (.comment start) nofun)
  · exact .ok (h.withMode (.name .condition start []) nofun)
  · exact .ok (h.withMode (.flagsDash start {}) nofun)
  · split
    · exact h.turnOn start {} _
    · exact .refuse

/-! ## Names -/

theorem defineGroup (h : Shifted fl c a st) (start : Nat) (name : Text) (index index' : Nat) :
    Carries fl c (Reader.defineGroup a start name index)
      (Reader.defineGroup st (c.pos + start) name index') := by
  refine .ite (fun _ => .refuse) fun _ => ?_
  cases hn : st.groupNamed? name with
  | some n => exact .refuse
  | none =>
    rw [groupNamed?_none h hn]
    exact .ok (h.enterCapture start (some name))

theorem referToGroup (hc : c.Groupless) (h : Shifted fl c a st) (name : Text)
    (index index' : Nat) :
    Carries fl c (Reader.referToGroup a name index) (Reader.referToGroup st name index') := by
  unfold Reader.referToGroup
  rw [groupNamed?_eq h hc]
  refine .ite (fun _ => .refuse) fun _ => ?_
  cases a.groupNamed? name with
  | none => exact .refuse
  | some n =>
    have same := move_eq hc
    have closed := isClosed_move h n
    rw [same] at closed
    dsimp only
    rw [closed]
    refine .ite (fun _ => ?_) fun _ => .refuse
    intro nx hx
    obtain ⟨_, hb, rfl⟩ := map_eq_ok.1 hx
    have checked := @checkBehind_move fl c a st h n (a.pos + 1) (st.pos + 1)
    rw [same] at checked
    rw [checked hb]
    have pushed := h.push (.backref n)
    rw [renumber, same] at pushed
    exact ⟨_, rfl, pushed⟩

theorem any_asked (hc : c.Groupless) (h : Shifted fl c a st) (n : Nat) :
    st.asked.any (·.1 = n) = a.asked.any (·.1 = n) := by
  obtain ⟨y, asked, same, rfl⟩ := h.eq
  have first : ∀ l : List (Nat × Nat), l.any (·.1 = n) = (l.map Prod.fst).any (· = n) := by
    intro l
    rw [List.any_map]
    rfl
  rw [first, first, ← same hc]
  rfl

/-- A condition asks for a number. -/
theorem ask (h : Shifted fl c a st) (n index index' : Nat) :
    Shifted fl c { a with asked := (n, index) :: a.asked }
      { st with asked := (n, index') :: st.asked } where
  eq := by
    obtain ⟨y, asked, same, rfl⟩ := h.eq
    exact ⟨y, (n, index') :: asked, fun hc => congrArg (n :: ·) (same hc), rfl⟩
  flags := h.flags
  numbered := h.numbered
  ground := h.ground
  comment := h.comment

theorem askForGroup (hc : c.Groupless) (h : Shifted fl c a st) {name : Text} {index' n : Nat}
    {nx : State} (index : Nat) (hx : Reader.askForGroup st name index' = .ok (n, nx)) :
    ∃ s, Reader.askForGroup a name index = .ok (n, s) ∧ Shifted fl c s nx := by
  unfold Reader.askForGroup at hx ⊢
  rw [groupNamed?_eq h hc] at hx
  by_cases hi : Text.isIdentifier name = true
  · rw [if_pos hi] at hx ⊢
    cases hn : a.groupNamed? name with
    | none =>
      rw [hn] at hx
      exact absurd hx refuse_ne_ok
    | some k =>
      rw [hn] at hx
      cases hx
      exact ⟨a, rfl, h⟩
  · rw [if_neg hi] at hx ⊢
    split at hx
    · next k hk =>
      by_cases h1 : k = 0
      · simp [h1] at hx
      · by_cases h2 : groupLimit ≤ k
        · simp [h1, h2] at hx
        · rw [if_neg h1, if_neg h2, any_asked hc h] at hx
          rw [if_neg h1, if_neg h2]
          by_cases h3 : a.asked.any (·.1 = k) = true
          · rw [if_pos h3] at hx ⊢
            cases hx
            exact ⟨a, rfl, h⟩
          · rw [if_neg h3] at hx ⊢
            cases hx
            exact ⟨_, rfl, h.ask n index index'⟩
    · simp at hx

theorem enterCondition (hc : c.Groupless) (h : Shifted fl c a st) (start : Nat) (name : Text)
    (index index' : Nat) :
    Carries fl c (Reader.enterCondition a start name index)
      (Reader.enterCondition st (c.pos + start) name index') := by
  intro nx hx
  obtain ⟨⟨n, st'⟩, asked, hx⟩ := bind_eq_ok.1 hx
  obtain ⟨_, hb, rfl⟩ := map_eq_ok.1 hx
  obtain ⟨s, own, hs⟩ := h.askForGroup hc index asked
  have same := move_eq hc n
  have checked := @checkBehind_move fl c s st' hs n (s.pos + 1) (st'.pos + 1)
  rw [same] at checked
  have entered := hs.enterPlain (o := .condition n) nofun start
  rw [Opener.renumber, same] at entered
  refine ⟨_, ?_, entered⟩
  rw [Reader.enterCondition, own]
  simp only [Except.bind, checked hb]
  rfl

theorem placeNamed (h : Shifted fl c a st) (site : Site) (name : Text) (index index' : Nat) :
    Carries fl c (Reader.placeNamed a site name index)
      (Reader.placeNamed st (site.shift c.pos) name index') := by
  unfold Reader.placeNamed
  cases characterNamed? name with
  | some code => exact h.placeChar site _ code _ _
  | none => exact .refuse

theorem readName {use : NameUse} {start : Nat} {name : Text}
    (hr : c.Groupless ∨ ¬ (Mode.name use start name).Refers) (h : Shifted fl c a st) (y : Symbol) :
    Carries fl c (Reader.readName a use start name y)
      (Reader.readName st (use.shift c.pos) (c.pos + start) name y) := by
  unfold Reader.readName
  rw [NameUse.close_shift]
  refine .ite (fun _ => .ite (fun _ => .refuse) fun _ => ?_) fun _ => ?_
  · cases use with
    | define => exact h.defineGroup start name _ _
    | refer =>
      rcases hr with hc | hr
      · exact h.referToGroup hc name _ _
      · exact absurd trivial hr
    | condition =>
      rcases hr with hc | hr
      · exact h.enterCondition hc start name _ _
      · exact absurd trivial hr
    | character site => exact h.placeNamed site name _ _
  · exact .ok (h.withMode (.name use start (name ++ y.text)) nofun)

/-! ## Between items -/

theorem readItem (hc : c.IsBase) (h : Shifted fl c a st) (d : Char) :
    Carries fl c (Reader.readItem a d) (Reader.readItem st d) := by
  obtain ⟨y, asked, same, rfl⟩ := h.eq
  unfold Reader.readItem
  refine .ite (fun _ => .ok h) fun _ => .ite (fun hv => ?_) fun _ => ?_
  · simp only [Bool.and_eq_true] at hv
    exact .ok ⟨⟨y, asked, same, rfl⟩, h.flags, h.numbered, h.ground, fun _ => hv.1⟩
  · split
    · exact h.bar
    · exact h.close
    · exact .ok (h.withMode (.opened a.pos) nofun)
    · exact .ok (h.withMode (.setStart { start := a.pos }) nofun)
    · exact .ok (h.push .any)
    · exact .ok (h.push (.anchor .start))
    · exact .ok (h.push (.anchor .stop))
    · exact h.quantify hc _ _ 0 none
    · exact h.quantify hc _ _ 1 none
    · exact h.quantify hc _ _ 0 (some 1)
    · exact .ok (h.withMode (.braces a.pos [] none) nofun)
    · exact .ok (h.push (.char d.toNat))

theorem closeBraces (hc : c.IsBase) (h : Shifted fl c a st) (start start' : Nat) (least : Text)
    (most : Option Text) :
    Carries fl c (Reader.closeBraces a start least most) (Reader.closeBraces st start' least most) := by
  unfold Reader.closeBraces
  cases count? least with
  | error e => exact .error
  | ok lo =>
    cases count? (most.getD least) with
    | error e => exact .error
    | ok hi => exact .ite (fun _ => .refuse) fun _ => h.quantify hc _ _ _ _

theorem extendBraces? (hc : c.IsBase) (h : Shifted fl c a st) (start : Nat) (least : Text)
    (most : Option Text) (y : Symbol) :
    CarriesIf fl c (Reader.extendBraces? a start least most y)
      (Reader.extendBraces? st (c.pos + start) least most y) := by
  unfold Reader.extendBraces?
  cases y with
  | escaped d => trivial
  | plain d =>
    refine .ite (fun _ => ?_) fun _ => .ite (fun _ => ?_) fun _ => .ite (fun _ => ?_) fun _ => trivial
    · cases most with
      | none => exact .ok (h.withMode (.braces start (least ++ [d]) none) nofun)
      | some digits => exact .ok (h.withMode (.braces start least (some (digits ++ [d]))) nofun)
    · exact .ok (h.withMode (.braces start least (some [])) nofun)
    · exact h.closeBraces hc start (c.pos + start) least most

end Shifted

/-! ## One symbol -/

variable {fl : Flags} {c a st : State}

theorem shifted_extend? (hc : c.IsBase) (hr : c.Groupless ∨ ¬ a.mode.Refers)
    (h : Shifted fl c a st) (y : Symbol) : CarriesIf fl c (extend? a y) (extend? st y) := by
  unfold extend?
  rw [h.mode]
  cases hm : a.mode with
  | repeated =>
    refine .ite (fun _ => .ok (h.setGreed hc .lazy)) fun _ => ?_
    exact .ite (fun _ => .ok (h.setGreed hc .possessive)) fun _ => trivial
  | braces start least most => exact h.extendBraces? hc start least most y
  | opened start => exact .ite (fun _ => .ok (h.withMode (.header start) nofun)) fun _ => trivial
  | octal site digits => exact h.extendOctal? site digits y
  | reference digits =>
    rw [hm] at hr
    rcases hr with hr | hr
    · exact h.extendReference? hr digits y
    · exact absurd trivial hr
  | _ => trivial

theorem shifted_settle (hr : c.Groupless ∨ ¬ a.mode.Refers) (h : Shifted fl c a st) :
    Carries fl c (settle a) (settle st) := by
  unfold settle
  rw [h.mode]
  cases hm : a.mode with
  | repeated => exact .ok (h.withMode .items nofun)
  | braces start least most => exact .ok (h.pushLiterals (bracesText least most))
  | opened start => exact .ok (h.enterCapture start none)
  | octal site digits => exact h.placeChar site _ _ _ _
  | reference digits =>
    rw [hm] at hr
    rcases hr with hr | hr
    · exact h.placeReference hr digits _ _
    · exact absurd trivial hr
  | _ => exact .ok h

/-- A comment goes on until a character closes it. -/
theorem shifted_comment (h : Shifted fl c a st) (y z : Symbol) :
    Carries fl c (.ok (if y = z then { a with mode := .items } else a))
      (.ok (if y = z then { st with mode := .items } else st)) := by
  by_cases hy : y = z
  · rw [if_pos hy, if_pos hy]
    exact .ok (h.withMode .items nofun)
  · rw [if_neg hy, if_neg hy]
    exact .ok h

theorem shifted_react (hc : c.IsBase) (hr : c.Groupless ∨ ¬ a.mode.Refers)
    (h : Shifted fl c a st) (y : Symbol) : Carries fl c (react a y) (react st y) := by
  unfold react
  rw [h.mode]
  cases hm : a.mode with
  | lineComment => exact shifted_comment h y _
  | comment start => exact shifted_comment h y _
  | header start => exact h.readHeader start y
  | headerP start => exact h.readHeaderP start y
  | headerAngle start => exact h.readHeaderAngle start y
  | name use start name =>
    rw [hm] at hr
    exact h.readName hr y
  | flagsOn start on => exact h.readFlagsOn hc start on y
  | flagsDash start on => exact h.readFlagsDash start on y
  | flagsOff start on off => exact h.readFlagsOff start on off y
  | setStart s => exact h.readSetStart s y
  | setMember s => exact h.readSetMember s y
  | setAfter s first m => exact h.readSetAfter s first m y
  | setDash s first m => exact h.readSetDash s first m y
  | hex site letter digits => exact h.extendHex site letter digits y
  | nameBrace site =>
    refine .ite (fun _ => .ok ?_) fun _ => .refuse
    exact h.pos ▸ h.withMode (.name (.character site) a.pos []) fun h => by cases h
  | _ =>
    -- between items
    cases y with
    | plain d => exact h.readItem hc d
    | escaped d => exact h.readItemEscape d

theorem not_refers_settle {nx : State} (h : settle st = .ok nx) (hr : ¬ st.mode.Refers) :
    ¬ nx.mode.Refers := by
  rcases mode_of_settle h with between | ⟨-, rfl⟩
  · cases hm : nx.mode <;> rw [hm] at between <;> first | exact id | exact between.elim
  · exact hr

theorem shifted_take (hc : c.IsBase) (hr : c.Groupless ∨ ¬ a.mode.Refers) (h : Shifted fl c a st)
    (y : Symbol) : Carries fl c (take a y) (take st y) := by
  have extended := shifted_extend? hc hr h y
  unfold take
  cases ha : extend? a y with
  | some x =>
    cases hs : extend? st y with
    | some x' =>
      rw [ha, hs] at extended
      exact extended
    | none =>
      rw [ha, hs] at extended
      exact extended.elim
  | none =>
    cases hs : extend? st y with
    | some x' =>
      rw [ha, hs] at extended
      exact extended.elim
    | none =>
      intro nx hx
      obtain ⟨st', settled, reacted⟩ := bind_eq_ok.1 hx
      obtain ⟨a', own, ha'⟩ := shifted_settle hr h st' settled
      obtain ⟨b, own', hb⟩ := shifted_react hc (hr.imp_right (not_refers_settle own)) ha' y nx reacted
      exact ⟨b, bind_eq_ok.2 ⟨a', own, own'⟩, hb⟩

theorem shifted_step (hc : c.IsBase) (hr : c.Groupless ∨ ¬ a.mode.Refers) (h : Shifted fl c a st)
    (y : Symbol) : Carries fl c (step a y) (step st y) := by
  intro nx hx
  obtain ⟨st', taken, rfl⟩ := step_ok hx
  obtain ⟨a', own, ha'⟩ := shifted_take hc hr h y st' taken
  refine ⟨{ a' with pos := a.pos + y.size }, ?_, ?_⟩
  · rw [step, own]
    rfl
  · rw [h.pos, Nat.add_assoc]
    exact ha'.withPos _

/-! ## A text -/

/-- While the text is read, no group is referred to. -/
def Free (st : State) (t : Text) : Prop := ∀ u v s, t = u ++ v → Reads st u s → ¬ s.mode.Refers

theorem Free.here {t : Text} (h : Free st t) : ¬ st.mode.Refers := h [] t st rfl (.done st)

theorem Free.plain {nx : State} {d : Char} {t : Text} (h : Free st (d :: t)) (hd : d ≠ '\\')
    (hs : step st (.plain d) = .ok nx) : Free nx t := by
  intro u v s ht hr
  exact h (d :: u) v s (congrArg (d :: ·) ht) (.plain hd hs hr)

theorem Free.escaped {nx : State} {d : Char} {t : Text} (h : Free st ('\\' :: d :: t))
    (hs : step st (.escaped d) = .ok nx) : Free nx t := by
  intro u v s ht hr
  exact h ('\\' :: d :: u) v s (congrArg (fun w => '\\' :: d :: w) ht) (.escaped hs hr)

/-- What is read behind another text is read alone. -/
theorem shifted_reads {nx : State} {t : Text} (hc : c.IsBase) (hr : Reads st t nx)
    (h : Shifted fl c a st) (ht : c.Groupless ∨ Free a t) :
    ∃ b, Reads a t b ∧ Shifted fl c b nx := by
  induction hr generalizing a with
  | done => exact ⟨a, .done a, h⟩
  | plain hd hs _ ih =>
    obtain ⟨b, own, hb⟩ := shifted_step hc (ht.imp_right Free.here) h _ _ hs
    obtain ⟨b', reads, hb'⟩ := ih hb (ht.imp_right fun free => free.plain hd own)
    exact ⟨b', .plain hd own reads, hb'⟩
  | escaped hs _ ih =>
    obtain ⟨b, own, hb⟩ := shifted_step hc (ht.imp_right Free.here) h _ _ hs
    obtain ⟨b', reads, hb'⟩ := ih hb (ht.imp_right fun free => free.escaped own)
    exact ⟨b', .escaped own reads, hb'⟩

/-! ## The end -/

theorem openFault?_none (h : Shifted fl c a st) (hst : openFault? st = none) :
    openFault? a = none := by
  obtain ⟨y, asked, -, rfl⟩ := h.eq
  have frames : ((c.after y asked a).frames.head?.map fun f => (Fault.openGroup, f.start)) = none →
      (a.frames.head?.map fun f => (Fault.openGroup, f.start)) = none := by
    rw [State.after]
    cases a.frames with
    | nil => exact fun _ => rfl
    | cons f fs => exact fun hn => by cases hn
  unfold openFault? at hst ⊢
  rw [h.mode] at hst
  cases hm : a.mode with
  | name use start text =>
    rw [hm] at hst
    simp only [Mode.shift] at hst
    split at hst <;> cases hst
  | _ =>
    rw [hm] at hst
    first | exact frames hst | cases hst

theorem unmetCondition?_none (hc : c.Groupless) (h : Shifted fl c a st)
    (hst : unmetCondition? st = none) : unmetCondition? a = none := by
  obtain ⟨y, asked, same, rfl⟩ := h.eq
  simp only [unmetCondition?, List.find?_eq_none, List.mem_reverse] at hst ⊢
  intro x hx
  have number : x.1 ∈ asked.map Prod.fst := same hc ▸ List.mem_map_of_mem hx
  obtain ⟨x', hx', first⟩ := List.mem_map.1 number
  have met := hst x' hx'
  rw [first] at met
  simpa [State.after, hc.1] using met

/-- What is accepted behind a text that has no groups is accepted alone. -/
theorem shifted_finish {q : Parsed} (hc : c.Groupless) (h : Shifted fl c a st)
    (hst : finish st = .ok q) : ∃ q', finish a = .ok q' := by
  obtain ⟨st', settled, concluded⟩ := bind_eq_ok.1 hst
  obtain ⟨a', own, ha'⟩ := shifted_settle (.inl hc) h st' settled
  have variableLookbehind : st'.variableLookbehind =
      (a'.variableLookbehind || c.variableLookbehind) := by
    obtain ⟨y, asked, -, rfl⟩ := ha'.eq
    rfl
  have finished : ∃ q', conclude a' = .ok q' := by
    unfold conclude at concluded ⊢
    cases hf : openFault? st' with
    | some x => simp [hf] at concluded
    | none =>
      cases hu : unmetCondition? st' with
      | some x => simp [hf, hu] at concluded
      | none =>
        rw [openFault?_none ha' hf, unmetCondition?_none hc ha' hu]
        rw [hf, hu, variableLookbehind] at concluded
        cases hv : a'.variableLookbehind with
        | true => simp [hv] at concluded
        | false => exact ⟨_, rfl⟩
  obtain ⟨q', hq'⟩ := finished
  exact ⟨q', bind_eq_ok.2 ⟨a', own, hq'⟩⟩

/-! ## The anchor at the start -/

/-- The state behind the anchor at the start. -/
def begun (fl : Flags) : State := { start fl with items := [.anchor .start], pos := 1 }

theorem step_start (hfl : fl.verbose = false) : step (start fl) (.plain '^') = .ok (begun fl) := by
  rw [start, begun, start, hfl]
  rfl

theorem reads_start (hfl : fl.verbose = false) {t : Text} {nx : State} :
    Reads (start fl) ('^' :: t) nx ↔ Reads (begun fl) t nx := by
  rw [reads_plain (by decide)]
  simp [step_start hfl]

theorem accepts_start (hfl : fl.verbose = false) {t : Text} :
    Accepts (start fl) ('^' :: t) ↔ Accepts (begun fl) t := by
  rw [accepts_plain (by decide)]
  simp [step_start hfl]

theorem isBase_begun (hfl : fl.verbose = false) : (begun fl).IsBase where
  mode := rfl
  frames := rfl
  verbose := hfl
  behind := rfl
  items := .inr ⟨_, _, rfl⟩
  begun := .inl nofun

/-- Outside all groups nothing is verbose, and there is no look-behind. -/
theorem Shifted.level (h : Shifted fl c a st) (hf : st.frames = []) :
    a.frames = [] ∧ a.verbose = false ∧ a.behind = none := by
  obtain ⟨y, asked, -, rfl⟩ := h.eq
  have none : a.frames = [] := by
    cases ha : a.frames with
    | nil => rfl
    | cons f fs =>
      rw [State.after, ha] at hf
      cases hf
  have ground := h.ground
  rw [State.ground, none] at ground
  exact ⟨none, congrArg Prod.fst ground, congrArg Prod.snd ground⟩

/-- A comment to the end of the line is read in a group only. -/
theorem frames_of_lineComment (h : Shifted fl c a st) (hm : st.mode = .lineComment) :
    st.frames ≠ [] := by
  have comment : a.mode = .lineComment := by
    rw [h.mode] at hm
    cases ha : a.mode <;> rw [ha] at hm <;> first | rfl | cases hm
  intro hf
  have plain := (h.level hf).2.1
  rw [h.comment comment] at plain
  cases plain

end RoutePattern.Regex.Reader
