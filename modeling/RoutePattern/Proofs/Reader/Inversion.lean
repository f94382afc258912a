import RoutePattern.Regex.Reader

/-! # What each part of the reader can do

For every function of the reader, the states that it leads to: which item it pushes, which group it
opens or closes, and in which mode it leaves the reader. Later proofs go by these cases and do not
unfold the reader.

* `Placed`: what becomes of an escape that stands for a character or a category, by its site.
* `readItem_ok`, `readItemEscape_ok`, `readHeader_ok`, `readFlagsOn_ok`, ...: one lemma a function.
* `Reacts`, `Extends`, `Settles`: what a symbol or the end of a construct does, by the mode.
-/

namespace RoutePattern.Regex

/-- An expression without parts. -/
def isLeaf : Regex → Bool
  | char _ => true
  | any => true
  | set _ _ => true
  | anchor _ => true
  | backref _ => true
  | _ => false

namespace Reader

@[simp] theorem refuse_ne_ok {α : Type} {f : Fault} {i : Nat} {a : α} : refuse f i ≠ .ok a := by
  simp [refuse]

theorem bind_eq_ok {α β : Type} {x : Except Error α} {g : α → Except Error β} {b : β} :
    x.bind g = .ok b ↔ ∃ a, x = .ok a ∧ g a = .ok b := by
  cases x <;> simp [Except.bind]

theorem map_eq_ok {α β : Type} {x : Except Error α} {g : α → β} {b : β} :
    x.map g = .ok b ↔ ∃ a, x = .ok a ∧ g a = b := by
  cases x <;> simp [Except.map]

variable {st nx : State}

/-! ## Escapes -/

/-- An escape that stands for a character or a category, put where it stands. -/
def Placed (st : State) : Site → State → Prop
  | .item, nx => ∃ r, r.isLeaf ∧ nx = st.push r
  | .member s, nx => ∃ y m, nx = { st with mode := .setAfter s y m }
  | .rangeEnd s _ _, nx => ∃ m, nx = { st with mode := .setMember (s.add m) }

theorem closeRange_ok {s : OpenSet} {y z : Symbol} {m n : Member} {stop : Nat}
    (h : st.closeRange s y m z n stop = .ok nx) :
    ∃ r, nx = { st with mode := .setMember (s.add r) } := by
  unfold State.closeRange at h
  split at h
  · split at h
    · simp at h
    · exact ⟨_, (Except.ok.inj h).symm⟩
  · simp at h

theorem placeMember_ok {site : Site} {y : Symbol} {m : Member} {stop : Nat}
    (h : st.placeMember site y m stop = .ok nx) : Placed st site nx := by
  cases site with
  | item => exact ⟨_, rfl, (Except.ok.inj h).symm⟩
  | member s => exact ⟨_, _, (Except.ok.inj h).symm⟩
  | rangeEnd s first a => exact closeRange_ok h

theorem placeChar_ok {site : Site} {y : Symbol} {code stop : Nat}
    (h : st.placeChar site y code stop = .ok nx) : Placed st site nx := by
  cases site with
  | item => exact ⟨_, rfl, (Except.ok.inj h).symm⟩
  | member s => exact ⟨_, _, (Except.ok.inj h).symm⟩
  | rangeEnd s first a => exact placeMember_ok h

theorem placeReference_ok {digits : Text} {stop : Nat}
    (h : st.placeReference digits stop = .ok nx) : ∃ n, nx = st.push (.backref n) := by
  unfold State.placeReference at h
  simp only at h
  split at h
  · split at h
    · obtain ⟨_, -, rfl⟩ := map_eq_ok.1 h
      exact ⟨_, rfl⟩
    · simp at h
  · simp at h

theorem readItemEscape_ok {c : Char} (h : readItemEscape st c = .ok nx) :
    (∃ r, r.isLeaf ∧ nx = st.push r) ∨ nx = { st with mode := .hex .item c [] } ∨
      nx = { st with mode := .nameBrace .item } ∨ nx = { st with mode := .octal .item [c] } ∨
      (isDigit c ∧ nx = { st with mode := .reference [c] }) := by
  unfold readItemEscape at h
  split at h
  · exact .inl ⟨_, rfl, (Except.ok.inj h).symm⟩
  · exact .inl ⟨_, rfl, (Except.ok.inj h).symm⟩
  · exact .inl ⟨_, rfl, (Except.ok.inj h).symm⟩
  · exact .inr (.inl (Except.ok.inj h).symm)
  · split at h
    · exact .inr (.inr (.inl (Except.ok.inj h).symm))
    · split at h
      · exact .inr (.inr (.inr (.inl (Except.ok.inj h).symm)))
      · split at h
        · next hd => exact .inr (.inr (.inr (.inr ⟨hd, (Except.ok.inj h).symm⟩)))
        · split at h
          · simp at h
          · exact .inl ⟨_, rfl, (Except.ok.inj h).symm⟩

theorem readSetEscape_ok {site : Site} {c : Char} (h : readSetEscape st site c = .ok nx) :
    Placed st site nx ∨ nx = { st with mode := .hex site c [] } ∨
      nx = { st with mode := .nameBrace site } ∨ nx = { st with mode := .octal site [c] } := by
  unfold readSetEscape at h
  split at h
  · exact .inl (placeMember_ok h)
  · exact .inl (placeChar_ok h)
  · exact .inr (.inl (Except.ok.inj h).symm)
  · split at h
    · exact .inl (placeChar_ok h)
    · split at h
      · exact .inr (.inr (.inl (Except.ok.inj h).symm))
      · split at h
        · exact .inr (.inr (.inr (Except.ok.inj h).symm))
        · split at h
          · simp at h
          · exact .inl (placeChar_ok h)

theorem extendHex_ok {site : Site} {letter : Char} {digits : Text} {y : Symbol}
    (h : extendHex st site letter digits y = .ok nx) :
    ∃ c, y = .plain c ∧ isHex c ∧
      (nx = { st with mode := .hex site letter (digits ++ [c]) } ∨ Placed st site nx) := by
  unfold extendHex at h
  cases y with
  | escaped c => simp at h
  | plain c =>
    simp only at h
    split at h
    · next hc =>
      refine ⟨c, rfl, hc, ?_⟩
      split at h
      · exact .inl (Except.ok.inj h).symm
      · split at h
        · cases h
        · split at h
          · simp at h
          · exact .inr (placeChar_ok h)
    · simp at h

theorem extendOctal?_ok {site : Site} {digits : Text} {y : Symbol}
    (h : extendOctal? st site digits y = some (.ok nx)) :
    ∃ c, y = .plain c ∧ isOctal c ∧
      (nx = { st with mode := .octal site (digits ++ [c]) } ∨ Placed st site nx) := by
  unfold extendOctal? at h
  cases y with
  | escaped c => simp at h
  | plain c =>
    simp only at h
    split at h
    · next hc =>
      refine ⟨c, rfl, hc, ?_⟩
      split at h
      · exact .inl (Except.ok.inj (Option.some.inj h)).symm
      · split at h
        · simp at h
        · exact .inr (placeChar_ok (Option.some.inj h))
    · simp at h

theorem isDigit_of_isOctal {c : Char} (h : isOctal c) : isDigit c := by
  simp only [isOctal, isDigit, Bool.and_eq_true, decide_eq_true_eq] at h ⊢
  exact ⟨h.1, Char.le_trans h.2 (by decide)⟩

theorem extendReference?_ok {digits : Text} {y : Symbol}
    (h : extendReference? st digits y = some (.ok nx)) :
    ∃ c, y = .plain c ∧ isDigit c ∧ (nx = { st with mode := .reference (digits ++ [c]) } ∨
      nx = { st with mode := .octal .item (digits ++ [c]) } ∨ ∃ r, r.isLeaf ∧ nx = st.push r) := by
  unfold extendReference? at h
  cases y with
  | escaped c => simp at h
  | plain c =>
    simp only at h
    split at h
    · split at h
      · simp at h
      · next hc =>
        refine ⟨c, rfl, by simpa using hc, ?_⟩
        split at h
        · exact .inl (Except.ok.inj (Option.some.inj h)).symm
        · obtain ⟨n, rfl⟩ := placeReference_ok (Option.some.inj h)
          exact .inr (.inr ⟨_, rfl, rfl⟩)
    · obtain ⟨d, hd, ho, h⟩ := extendOctal?_ok h
      obtain rfl := Symbol.plain.inj hd
      exact ⟨c, rfl, isDigit_of_isOctal ho, .inr h⟩

/-! ## Sets -/

theorem readSetMember_ok {s : OpenSet} {y : Symbol} (h : readSetMember st s y = .ok nx) :
    (∃ c, y = .escaped c ∧ readSetEscape st (.member s) c = .ok nx) ∨
      (y = .plain ']' ∧ s.members ≠ [] ∧ nx = st.closeSet s) ∨
      ∃ c, y = .plain c ∧ (c = ']' → s.members = []) ∧
        nx = { st with mode := .setAfter s (.plain c) (.char c.toNat) } := by
  unfold readSetMember at h
  cases y with
  | escaped c => exact .inl ⟨c, rfl, h⟩
  | plain c =>
    simp only at h
    split at h
    · next hc =>
      simp only [Bool.and_eq_true, decide_eq_true_eq, Bool.not_eq_true', List.isEmpty_eq_false_iff]
        at hc
      exact .inr (.inl ⟨by rw [hc.1], hc.2, (Except.ok.inj h).symm⟩)
    · next hc =>
      refine .inr (.inr ⟨c, rfl, fun h' => ?_, (Except.ok.inj h).symm⟩)
      simpa [h'] using hc

theorem readSetStart_ok {s : OpenSet} {y : Symbol} (h : readSetStart st s y = .ok nx) :
    (y = .plain '^' ∧ nx = { st with mode := .setMember { s with negated := true } }) ∨
      (y ≠ .plain '^' ∧ readSetMember st s y = .ok nx) := by
  unfold readSetStart at h
  split at h
  · next hy => exact .inl ⟨hy, (Except.ok.inj h).symm⟩
  · next hy => exact .inr ⟨hy, h⟩

theorem readSetAfter_ok {s : OpenSet} {first : Symbol} {m : Member} {y : Symbol}
    (h : readSetAfter st s first m y = .ok nx) :
    (y = .plain '-' ∧ nx = { st with mode := .setDash s first m }) ∨
      (y ≠ .plain '-' ∧ readSetMember st (s.add m) y = .ok nx) := by
  unfold readSetAfter at h
  split at h
  · next hy => exact .inl ⟨hy, (Except.ok.inj h).symm⟩
  · next hy => exact .inr ⟨hy, h⟩

theorem readSetDash_ok {s : OpenSet} {first : Symbol} {m : Member} {y : Symbol}
    (h : readSetDash st s first m y = .ok nx) :
    (∃ c, y = .escaped c ∧ readSetEscape st (.rangeEnd s first m) c = .ok nx) ∨
      (y = .plain ']' ∧ ∃ t : OpenSet, t.start = s.start ∧ nx = st.closeSet t) ∨
      ∃ c r, y = .plain c ∧ c ≠ ']' ∧ nx = { st with mode := .setMember (s.add r) } := by
  unfold readSetDash at h
  cases y with
  | escaped c => exact .inl ⟨c, rfl, h⟩
  | plain c =>
    simp only at h
    split at h
    · next hc => exact .inr (.inl ⟨by rw [hc], (s.add m).add (.char 45), rfl, (Except.ok.inj h).symm⟩)
    · next hc =>
      obtain ⟨r, hr⟩ := closeRange_ok h
      exact .inr (.inr ⟨c, r, rfl, hc, hr⟩)

/-! ## Flags -/

theorem turnOn_ok {start : Nat} {on : Flags} {f : Flag} (h : turnOn st start on f = .ok nx) :
    nx = { st with mode := .flagsOn start (on.insert f) } := by
  unfold turnOn at h
  split at h
  · simp at h
  · simp only at h
    split at h
    · simp at h
    · exact (Except.ok.inj h).symm

theorem turnOff_ok {start : Nat} {on off : Flags} {f : Flag}
    (h : turnOff st start on off f = .ok nx) :
    nx = { st with mode := .flagsOff start on (off.insert f) } := by
  unfold turnOff at h
  split at h
  · simp at h
  · exact (Except.ok.inj h).symm

theorem setFlags_ok {start : Nat} {on : Flags} (h : setFlags st start on = .ok nx) :
    (st.frames = [] ∧ st.branches = [] ∧ st.items = []) ∧
      nx = { st with
        mode := .items, flags := st.flags.union on, verbose := (st.flags.union on).verbose } := by
  unfold setFlags at h
  split at h
  · next hs =>
    simp only [Bool.and_eq_true, List.isEmpty_iff] at hs
    exact ⟨⟨hs.1.1, hs.1.2, hs.2⟩, (Except.ok.inj h).symm⟩
  · simp at h

theorem readFlagsOn_ok {start : Nat} {on : Flags} {y : Symbol}
    (h : readFlagsOn st start on y = .ok nx) :
    (y = .plain ')' ∧ setFlags st start on = .ok nx) ∨
      (y = .plain ':' ∧ nx = enterFlagged st start on {}) ∨
      (y = .plain '-' ∧ nx = { st with mode := .flagsDash start on }) ∨
      ∃ c f, y = .plain c ∧ Flag.ofLetter? c = some f ∧
        nx = { st with mode := .flagsOn start (on.insert f) } := by
  unfold readFlagsOn at h
  split at h
  · next hy => exact .inl ⟨hy, h⟩
  · split at h
    · next hy =>
      split at h
      · simp at h
      · split at h
        · next hc => exact .inr (.inl ⟨hc, (Except.ok.inj h).symm⟩)
        · next hc =>
          simp only [Bool.or_eq_true, decide_eq_true_eq] at hy
          exact .inr (.inr (.inl ⟨hy.resolve_left hc, (Except.ok.inj h).symm⟩))
    · split at h
      · next f hf =>
        cases y with
        | escaped c => cases hf
        | plain c => exact .inr (.inr (.inr ⟨c, f, rfl, hf, turnOn_ok h⟩))
      · simp at h

theorem readFlagsDash_ok {start : Nat} {on : Flags} {y : Symbol}
    (h : readFlagsDash st start on y = .ok nx) :
    ∃ c f, y = .plain c ∧ Flag.ofLetter? c = some f ∧
      nx = { st with mode := .flagsOff start on (Flags.insert {} f) } := by
  unfold readFlagsDash at h
  split at h
  · next f hf =>
    cases y with
    | escaped c => cases hf
    | plain c => exact ⟨c, f, rfl, hf, turnOff_ok h⟩
  · simp at h

theorem readFlagsOff_ok {start : Nat} {on off : Flags} {y : Symbol}
    (h : readFlagsOff st start on off y = .ok nx) :
    (y = .plain ':' ∧ nx = enterFlagged st start on off) ∨
      ∃ c f, y = .plain c ∧ Flag.ofLetter? c = some f ∧
        nx = { st with mode := .flagsOff start on (off.insert f) } := by
  unfold readFlagsOff at h
  split at h
  · next hy =>
    split at h
    · simp at h
    · split at h
      · simp at h
      · exact .inl ⟨hy, (Except.ok.inj h).symm⟩
  · split at h
    · next f hf =>
      cases y with
      | escaped c => cases hf
      | plain c => exact .inr ⟨c, f, rfl, hf, turnOff_ok h⟩
    · simp at h

/-! ## Headers -/

theorem readHeaderAngle_ok {start : Nat} {y : Symbol} (h : readHeaderAngle st start y = .ok nx) :
    (y = .plain '=' ∧ nx = st.enterLookbehind start false) ∨
      (y = .plain '!' ∧ nx = st.enterLookbehind start true) := by
  unfold readHeaderAngle at h
  split at h
  · next hy => exact .inl ⟨hy, (Except.ok.inj h).symm⟩
  · split at h
    · next hy => exact .inr ⟨hy, (Except.ok.inj h).symm⟩
    · simp at h

theorem readHeaderP_ok {start : Nat} {y : Symbol} (h : readHeaderP st start y = .ok nx) :
    (y = .plain '<' ∧ nx = { st with mode := .name .define start [] }) ∨
      (y = .plain '=' ∧ nx = { st with mode := .name .refer start [] }) := by
  unfold readHeaderP at h
  split at h
  · next hy => exact .inl ⟨hy, (Except.ok.inj h).symm⟩
  · split at h
    · next hy => exact .inr ⟨hy, (Except.ok.inj h).symm⟩
    · simp at h

/-- The openers of the groups whose header is one mark. -/
def headerOpener? : Char → Option Opener
  | ':' => some (.flagged {} {})
  | '=' => some (.lookahead false)
  | '!' => some (.lookahead true)
  | '>' => some .atomic
  | _ => none

theorem readHeader_ok {start : Nat} {y : Symbol} (h : readHeader st start y = .ok nx) :
    (∃ c o, y = .plain c ∧ headerOpener? c = some o ∧ nx = st.enter o start st.verbose) ∨
      (y = .plain 'P' ∧ nx = { st with mode := .headerP start }) ∨
      (y = .plain '<' ∧ nx = { st with mode := .headerAngle start }) ∨
      (y = .plain '#' ∧ nx = { st with mode := .comment start }) ∨
      (y = .plain '(' ∧ nx = { st with mode := .name .condition start [] }) ∨
      (y = .plain '-' ∧ nx = { st with mode := .flagsDash start {} }) ∨
      ∃ c f, y = .plain c ∧ Flag.ofLetter? c = some f ∧
        nx = { st with mode := .flagsOn start (Flags.insert {} f) } := by
  have flagged : enterFlagged st start {} {} = st.enter (.flagged {} {}) start st.verbose := by
    simp [enterFlagged]
  unfold readHeader at h
  split at h
  · exact .inl ⟨':', _, rfl, rfl, flagged ▸ (Except.ok.inj h).symm⟩
  · exact .inr (.inl ⟨rfl, (Except.ok.inj h).symm⟩)
  · exact .inr (.inr (.inl ⟨rfl, (Except.ok.inj h).symm⟩))
  · exact .inl ⟨'=', _, rfl, rfl, (Except.ok.inj h).symm⟩
  · exact .inl ⟨'!', _, rfl, rfl, (Except.ok.inj h).symm⟩
  · exact .inl ⟨'>', _, rfl, rfl, (Except.ok.inj h).symm⟩
  · exact .inr (.inr (.inr (.inl ⟨rfl, (Except.ok.inj h).symm⟩)))
  · exact .inr (.inr (.inr (.inr (.inl ⟨rfl, (Except.ok.inj h).symm⟩))))
  · exact .inr (.inr (.inr (.inr (.inr (.inl ⟨rfl, (Except.ok.inj h).symm⟩)))))
  · split at h
    · next f hf =>
      cases y with
      | escaped c => cases hf
      | plain c => exact .inr (.inr (.inr (.inr (.inr (.inr ⟨c, f, rfl, hf, turnOn_ok h⟩)))))
    · simp at h

/-! ## Items and groups -/

theorem bar_ok (h : st.bar = .ok nx) :
    nx = { st with branches := concat st.items.reverse :: st.branches, items := [] } := by
  unfold State.bar at h
  dsimp only at h
  split at h
  · split at h
    · exact (Except.ok.inj h).symm
    · simp at h
  · exact (Except.ok.inj h).symm

theorem quantify_ok {index least : Nat} {most : Option Nat}
    (h : st.quantify index least most = .ok nx) :
    ∃ r rs, st.items = r :: rs ∧
      nx = { st with items := .rep least most .greedy r :: rs, mode := .repeated } := by
  unfold State.quantify at h
  split at h
  · simp at h
  · next r rs hi =>
    split at h
    · simp at h
    · split at h
      · simp at h
      · exact ⟨r, rs, hi, (Except.ok.inj h).symm⟩

theorem setGreed_eq (st : State) (g : Greed) :
    ∃ items, items.length = st.items.length ∧
      st.setGreed g = { st with items := items, mode := .items } := by
  unfold State.setGreed
  split
  · next hi => exact ⟨_, by rw [hi]; rfl, rfl⟩
  · exact ⟨st.items, rfl, rfl⟩

theorem close_ok (h : st.close = .ok nx) :
    ∃ f, st.frames = f :: nx.frames ∧ nx.mode = .items ∧
      nx.items = st.closed f.opener :: f.items := by
  unfold State.close at h
  split at h
  · simp at h
  · next f fs hf =>
    obtain rfl := Except.ok.inj h
    exact ⟨f, hf, rfl, rfl⟩

/-! ## Between items -/

theorem readItem_ok {c : Char} (h : readItem st c = .ok nx) :
    (st.verbose ∧ isSkipped c ∧ nx = st) ∨
      (st.verbose ∧ c = '#' ∧ nx = { st with mode := .lineComment }) ∨
      (c = '|' ∧ st.bar = .ok nx) ∨ (c = ')' ∧ st.close = .ok nx) ∨
      (c = '(' ∧ nx = { st with mode := .opened st.pos }) ∨
      (c = '[' ∧ nx = { st with mode := .setStart { start := st.pos } }) ∨
      (c = '\x7b' ∧ nx = { st with mode := .braces st.pos [] none }) ∨
      (c ∈ ['*', '+', '?'] ∧ ∃ least most, st.quantify st.pos least most = .ok nx) ∨
      (c ≠ '(' ∧ c ≠ '[' ∧ ∃ r, r.isLeaf ∧ nx = st.push r) := by
  unfold readItem at h
  split at h
  · next hv =>
    simp only [Bool.and_eq_true] at hv
    exact .inl ⟨hv.1, hv.2, (Except.ok.inj h).symm⟩
  · split at h
    · next hv =>
      simp only [Bool.and_eq_true, decide_eq_true_eq] at hv
      exact .inr (.inl ⟨hv.1, hv.2, (Except.ok.inj h).symm⟩)
    · refine .inr (.inr ?_)
      split at h
      · exact .inl ⟨rfl, h⟩
      · exact .inr (.inl ⟨rfl, h⟩)
      · exact .inr (.inr (.inl ⟨rfl, (Except.ok.inj h).symm⟩))
      · exact .inr (.inr (.inr (.inl ⟨rfl, (Except.ok.inj h).symm⟩)))
      · refine .inr (.inr (.inr (.inr (.inr (.inr ⟨by decide, by decide, .any, rfl, ?_⟩)))))
        exact (Except.ok.inj h).symm
      · refine .inr (.inr (.inr (.inr (.inr (.inr ⟨by decide, by decide, .anchor .start, rfl, ?_⟩)))))
        exact (Except.ok.inj h).symm
      · refine .inr (.inr (.inr (.inr (.inr (.inr ⟨by decide, by decide, .anchor .stop, rfl, ?_⟩)))))
        exact (Except.ok.inj h).symm
      · exact .inr (.inr (.inr (.inr (.inr (.inl ⟨by simp, _, _, h⟩)))))
      · exact .inr (.inr (.inr (.inr (.inr (.inl ⟨by simp, _, _, h⟩)))))
      · exact .inr (.inr (.inr (.inr (.inr (.inl ⟨by simp, _, _, h⟩)))))
      · exact .inr (.inr (.inr (.inr (.inl ⟨rfl, (Except.ok.inj h).symm⟩))))
      · next h1 h2 _ _ _ _ _ _ _ =>
        exact .inr (.inr (.inr (.inr (.inr (.inr ⟨h1, h2, _, rfl, (Except.ok.inj h).symm⟩)))))

theorem closeBraces_ok {start : Nat} {least : Text} {most : Option Text}
    (h : closeBraces st start least most = .ok nx) :
    ∃ lo hi, st.quantify start lo hi = .ok nx := by
  obtain ⟨lo, -, h⟩ := bind_eq_ok.1 h
  obtain ⟨hi, -, h⟩ := bind_eq_ok.1 h
  split at h
  · simp at h
  · exact ⟨_, _, h⟩

theorem extendBraces?_ok {start : Nat} {least : Text} {most : Option Text} {y : Symbol}
    (h : extendBraces? st start least most y = some (.ok nx)) :
    ∃ c, y = .plain c ∧ (isDigit c ∨ c = ',' ∨ c = '\x7d') ∧
      ((∃ lo hi, nx = { st with mode := .braces start lo hi }) ∨
        ∃ lo hi, st.quantify start lo hi = .ok nx) := by
  unfold extendBraces? at h
  cases y with
  | escaped c => simp at h
  | plain c =>
    simp only at h
    split at h
    · next hc =>
      refine ⟨c, rfl, .inl hc, .inl ?_⟩
      cases most with
      | none => exact ⟨_, _, (Except.ok.inj (Option.some.inj h)).symm⟩
      | some digits => exact ⟨_, _, (Except.ok.inj (Option.some.inj h)).symm⟩
    · split at h
      · next hc =>
        simp only [Bool.and_eq_true, decide_eq_true_eq] at hc
        exact ⟨c, rfl, .inr (.inl hc.1), .inl ⟨_, _, (Except.ok.inj (Option.some.inj h)).symm⟩⟩
      · split at h
        · next hc =>
          simp only [Bool.and_eq_true, decide_eq_true_eq] at hc
          exact ⟨c, rfl, .inr (.inr hc.1), .inr (closeBraces_ok (Option.some.inj h))⟩
        · simp at h

/-! ## One symbol -/

/-- The construct cannot end before the symbol at hand. -/
def Mode.IsSettled : Mode → Prop
  | .repeated => False
  | .braces _ _ _ => False
  | .opened _ => False
  | .octal _ _ => False
  | .reference _ => False
  | _ => True

/-- How a settled reader takes a symbol: in each mode, the function that reads it there. -/
inductive Reacts (st : State) : Symbol → State → Prop
  | item {c : Char} {nx : State} (mode : st.mode = .items) (read : readItem st c = .ok nx) :
      Reacts st (.plain c) nx
  | escape {c : Char} {nx : State} (mode : st.mode = .items)
      (read : readItemEscape st c = .ok nx) : Reacts st (.escaped c) nx
  | lineEnd (mode : st.mode = .lineComment) : Reacts st (.plain '\n') { st with mode := .items }
  | inLine {y : Symbol} (mode : st.mode = .lineComment) (stays : y ≠ .plain '\n') : Reacts st y st
  | commentEnd {start : Nat} (mode : st.mode = .comment start) :
      Reacts st (.plain ')') { st with mode := .items }
  | inComment {start : Nat} {y : Symbol} (mode : st.mode = .comment start)
      (stays : y ≠ .plain ')') : Reacts st y st
  | header {start : Nat} {y : Symbol} {nx : State} (mode : st.mode = .header start)
      (read : readHeader st start y = .ok nx) : Reacts st y nx
  | headerP {start : Nat} {y : Symbol} {nx : State} (mode : st.mode = .headerP start)
      (read : readHeaderP st start y = .ok nx) : Reacts st y nx
  | headerAngle {start : Nat} {y : Symbol} {nx : State} (mode : st.mode = .headerAngle start)
      (read : readHeaderAngle st start y = .ok nx) : Reacts st y nx
  | name {use : NameUse} {start : Nat} {w : Text} {y : Symbol} {nx : State}
      (mode : st.mode = .name use start w) (read : readName st use start w y = .ok nx) :
      Reacts st y nx
  | flagsOn {start : Nat} {on : Flags} {y : Symbol} {nx : State}
      (mode : st.mode = .flagsOn start on) (read : readFlagsOn st start on y = .ok nx) :
      Reacts st y nx
  | flagsDash {start : Nat} {on : Flags} {y : Symbol} {nx : State}
      (mode : st.mode = .flagsDash start on) (read : readFlagsDash st start on y = .ok nx) :
      Reacts st y nx
  | flagsOff {start : Nat} {on off : Flags} {y : Symbol} {nx : State}
      (mode : st.mode = .flagsOff start on off) (read : readFlagsOff st start on off y = .ok nx) :
      Reacts st y nx
  | setStart {s : OpenSet} {y : Symbol} {nx : State} (mode : st.mode = .setStart s)
      (read : readSetStart st s y = .ok nx) : Reacts st y nx
  | setMember {s : OpenSet} {y : Symbol} {nx : State} (mode : st.mode = .setMember s)
      (read : readSetMember st s y = .ok nx) : Reacts st y nx
  | setAfter {s : OpenSet} {first y : Symbol} {m : Member} {nx : State}
      (mode : st.mode = .setAfter s first m) (read : readSetAfter st s first m y = .ok nx) :
      Reacts st y nx
  | setDash {s : OpenSet} {first y : Symbol} {m : Member} {nx : State}
      (mode : st.mode = .setDash s first m) (read : readSetDash st s first m y = .ok nx) :
      Reacts st y nx
  | hex {site : Site} {letter : Char} {digits : Text} {y : Symbol} {nx : State}
      (mode : st.mode = .hex site letter digits)
      (read : extendHex st site letter digits y = .ok nx) : Reacts st y nx
  | nameBrace {site : Site} (mode : st.mode = .nameBrace site) :
      Reacts st (.plain '\x7b') { st with mode := .name (.character site) st.pos [] }

theorem react_ok {y : Symbol} (hn : st.mode.IsSettled) (h : react st y = .ok nx) :
    Reacts st y nx := by
  cases hm : st.mode <;> simp only [react, hm] at h
  case items =>
    cases y with
    | plain c => exact .item hm h
    | escaped c => exact .escape hm h
  case lineComment =>
    obtain rfl := Except.ok.inj h
    split
    · next hy => exact hy ▸ .lineEnd hm
    · next hy => exact .inLine hm hy
  case comment start =>
    obtain rfl := Except.ok.inj h
    split
    · next hy => exact hy ▸ .commentEnd hm
    · next hy => exact .inComment hm hy
  case header => exact .header hm h
  case headerP => exact .headerP hm h
  case headerAngle => exact .headerAngle hm h
  case name => exact .name hm h
  case flagsOn => exact .flagsOn hm h
  case flagsDash => exact .flagsDash hm h
  case flagsOff => exact .flagsOff hm h
  case setStart => exact .setStart hm h
  case setMember => exact .setMember hm h
  case setAfter => exact .setAfter hm h
  case setDash => exact .setDash hm h
  case hex => exact .hex hm h
  case nameBrace site =>
    split at h
    · next hy =>
      obtain rfl := Except.ok.inj h
      exact hy ▸ .nameBrace hm
    · simp at h
  all_goals rw [hm] at hn; exact hn.elim

/-- How the construct at hand goes on with a symbol. -/
inductive Extends (st : State) : Symbol → State → Prop
  | greed {c : Char} (g : Greed) (mode : st.mode = .repeated) (mark : c = '?' ∨ c = '+') :
      Extends st (.plain c) (st.setGreed g)
  | braces {start : Nat} {least : Text} {most : Option Text} {y : Symbol} {nx : State}
      (mode : st.mode = .braces start least most)
      (read : extendBraces? st start least most y = some (.ok nx)) : Extends st y nx
  | opened {start : Nat} (mode : st.mode = .opened start) :
      Extends st (.plain '?') { st with mode := .header start }
  | octal {site : Site} {digits : Text} {y : Symbol} {nx : State}
      (mode : st.mode = .octal site digits)
      (read : extendOctal? st site digits y = some (.ok nx)) : Extends st y nx
  | reference {digits : Text} {y : Symbol} {nx : State} (mode : st.mode = .reference digits)
      (read : extendReference? st digits y = some (.ok nx)) : Extends st y nx

theorem extend?_ok {y : Symbol} (h : extend? st y = some (.ok nx)) : Extends st y nx := by
  unfold extend? at h
  split at h
  · next hm =>
    split at h
    · next hy =>
      obtain rfl := Except.ok.inj (Option.some.inj h)
      exact hy ▸ .greed _ hm (.inl rfl)
    · split at h
      · next hy =>
        obtain rfl := Except.ok.inj (Option.some.inj h)
        exact hy ▸ .greed _ hm (.inr rfl)
      · cases h
  · next hm => exact .braces hm h
  · next hm =>
    split at h
    · next hy =>
      obtain rfl := Except.ok.inj (Option.some.inj h)
      exact hy ▸ .opened hm
    · cases h
  · next hm => exact .octal hm h
  · next hm => exact .reference hm h
  · cases h

/-- How the construct at hand ends. -/
inductive Settles (st : State) : State → Prop
  | repeated (mode : st.mode = .repeated) : Settles st { st with mode := .items }
  | braces {start : Nat} {least : Text} {most : Option Text}
      (mode : st.mode = .braces start least most) :
      Settles st (st.pushLiterals (bracesText least most))
  | opened {start : Nat} (mode : st.mode = .opened start) : Settles st (st.enterCapture start none)
  | octal {site : Site} {digits : Text} {nx : State} (mode : st.mode = .octal site digits)
      (placed : Placed st site nx) : Settles st nx
  | reference {digits : Text} (number : Nat) (mode : st.mode = .reference digits) :
      Settles st (st.push (.backref number))
  | settled (mode : st.mode.IsSettled) : Settles st st

theorem settle_ok (h : settle st = .ok nx) : Settles st nx := by
  unfold settle at h
  split at h
  · next hm => exact Except.ok.inj h ▸ .repeated hm
  · next hm => exact Except.ok.inj h ▸ .braces hm
  · next hm => exact Except.ok.inj h ▸ .opened hm
  · next hm => exact .octal hm (placeChar_ok h)
  · next hm =>
    obtain ⟨n, rfl⟩ := placeReference_ok h
    exact .reference n hm
  · obtain rfl := Except.ok.inj h
    refine .settled ?_
    unfold Mode.IsSettled
    split <;> simp_all

theorem settle_eq (h : st.mode.IsSettled) : settle st = .ok st := by
  unfold settle
  split <;> first | rfl | (next hs => rw [hs] at h; exact h.elim)

theorem take_eq_react {y : Symbol} (h : st.mode.IsSettled) : take st y = react st y := by
  have none : extend? st y = none := by
    unfold extend?
    split <;> first | rfl | (next hs => rw [hs] at h; exact h.elim)
  rw [take, none]
  simp only [settle_eq h, Except.bind]

theorem reacts_of_take {y : Symbol} (hn : st.mode.IsSettled) (h : take st y = .ok nx) :
    Reacts st y nx := react_ok hn (take_eq_react hn ▸ h)

/-- The modes behind a construct: the reader stands between items or members. -/
def Mode.IsBetween : Mode → Prop
  | .items => True
  | .setMember _ => True
  | .setAfter _ _ _ => True
  | _ => False

theorem between_of_placed {site : Site} (h : Placed st site nx) : nx.mode.IsBetween := by
  cases site with
  | item => obtain ⟨r, -, rfl⟩ := h; trivial
  | member s => obtain ⟨y, m, rfl⟩ := h; trivial
  | rangeEnd s y m => obtain ⟨n, rfl⟩ := h; trivial

theorem Mode.IsBetween.settled {m : Mode} (h : m.IsBetween) : m.IsSettled := by
  cases m <;> trivial

theorem settled_of_placed {site : Site} (h : Placed st site nx) : nx.mode.IsSettled :=
  (between_of_placed h).settled

theorem pos_of_placed {site : Site} (h : Placed st site nx) : nx.pos = st.pos := by
  cases site with
  | item => obtain ⟨r, -, rfl⟩ := h; rfl
  | member s => obtain ⟨y, m, rfl⟩ := h; rfl
  | rangeEnd s y m => obtain ⟨n, rfl⟩ := h; rfl

theorem step_ok {y : Symbol} (h : step st y = .ok nx) :
    ∃ s, take st y = .ok s ∧ nx = { s with pos := st.pos + y.size } := by
  obtain ⟨s, hs, rfl⟩ := map_eq_ok.1 h
  exact ⟨s, hs, rfl⟩

theorem pos_of_step {y : Symbol} (h : step st y = .ok nx) : nx.pos = st.pos + y.size := by
  obtain ⟨_, -, rfl⟩ := step_ok h
  rfl

/-- A symbol either extends the construct at hand, or is read where that construct has ended. -/
theorem take_ok {y : Symbol} (h : take st y = .ok nx) :
    extend? st y = some (.ok nx) ∨
      (extend? st y = none ∧ ∃ s, settle st = .ok s ∧ react s y = .ok nx) := by
  unfold take at h
  split at h
  · next he => exact .inl (h ▸ he)
  · next he => exact .inr ⟨he, bind_eq_ok.1 h⟩

theorem pos_of_settle (h : settle st = .ok nx) : nx.pos = st.pos := by
  cases settle_ok h with
  | octal _ placed => exact pos_of_placed placed
  | _ => rfl

/-- A construct that ends is left behind, and others are not touched. -/
theorem mode_of_settle (h : settle st = .ok nx) :
    nx.mode.IsBetween ∨ (st.mode.IsSettled ∧ nx = st) := by
  cases settle_ok h with
  | octal _ placed => exact .inl (between_of_placed placed)
  | settled hn => exact .inr ⟨hn, rfl⟩
  | _ => exact .inl trivial

theorem settled_of_settle (h : settle st = .ok nx) : nx.mode.IsSettled := by
  rcases mode_of_settle h with between | ⟨hn, rfl⟩
  · exact between.settled
  · exact hn

/-! ## The end -/

theorem finish_ok {q : Parsed} (h : finish st = .ok q) :
    ∃ s, settle st = .ok s ∧ (s.mode = .items ∨ s.mode = .lineComment) ∧ s.frames = [] ∧
      q.tree = s.body ∧ q.flags = s.flags.settled ∧ q.groups = s.groups.map MetGroup.toGroup := by
  obtain ⟨s, hs, hc⟩ := bind_eq_ok.1 h
  have settled := settled_of_settle hs
  unfold conclude at hc
  split at hc
  · simp at hc
  · simp at hc
  · next hf _ =>
    split at hc
    · cases hc
    · refine ⟨s, hs, ?_, ?_, ?_⟩
      · revert hf settled
        unfold openFault? Mode.IsSettled
        cases s.mode <;> simp
        split <;> simp
      · revert hf
        unfold openFault?
        cases s.mode <;> simp
        split <;> simp
      · cases hc; exact ⟨rfl, rfl, rfl⟩

end Reader

end RoutePattern.Regex
