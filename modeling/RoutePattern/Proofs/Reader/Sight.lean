import RoutePattern.Proofs.Reader.Sets
import RoutePattern.Proofs.Scan.Headers

/-! # The scanner of groups, seen from the reader

`Mode.sight m pos rest`: the capture groups that the scanner still finds when the reader stands in
mode `m` before the text `rest`. In most modes the two stand at the same place; in the middle of a
header or a name the scanner waits where the group opens, in a set or a comment it has already gone
on to the end of it.

* `Mode.misreads`: the few symbols that the scanner takes for something else than the reader does.
* `sees_step`: with any other symbol, what the reader has found and what the scanner still finds
  stay the same; only a condition counts for the scanner as one group more.
-/

namespace RoutePattern.Regex.Reader

open Scan

theorem openingsAfter_map (e : Option Nat) (k i : Nat) {u : Text} (hu : u.length = k) (t : Text) :
    openingsAfter (e.map (· + k)) i (u ++ t) = openingsAfter e (i + k) t := by
  cases e with
  | none => rfl
  | some n =>
    simp only [Option.map_some, openingsAfter]
    rw [Nat.add_comm n k, ← hu, List.drop_length_add_append, Nat.add_assoc]

/-! ## Sight -/

/-- What the scanner finds after a comment. -/
def commentSight (pos : Nat) (rest : Text) : List Group :=
  match rest.cut? ')' with
  | some (comment, r) => openingsFrom (pos + comment.length + 1) r
  | none => []

/-- What the scanner finds after some members of a set. -/
def setSight (pos : Nat) (rest : Text) : List Group := openingsAfter (membersExtent? rest) pos rest

/-- What the scanner finds in the middle of an escape. -/
def siteSight : Site → Nat → Text → List Group
  | .item, pos, rest => openingsFrom pos rest
  | _, pos, rest => setSight pos rest

def Mode.sight : Mode → Nat → Text → List Group
  | .comment _, pos, rest => commentSight pos rest
  | .opened start, _, rest => openingsFrom start ('(' :: rest)
  | .header start, _, rest => openingsFrom start ('(' :: '?' :: rest)
  | .headerP start, _, rest => openingsFrom start ('(' :: '?' :: 'P' :: rest)
  | .headerAngle start, _, rest => openingsFrom start ('(' :: '?' :: '<' :: rest)
  | .name .define start w, _, rest => openingsFrom start ('(' :: '?' :: 'P' :: '<' :: (w ++ rest))
  | .name .refer _ w, pos, rest => openingsFrom (pos - w.length) (w ++ rest)
  | .name .condition start w, _, rest => openingsFrom (start + 2) ('(' :: (w ++ rest))
  | .name (.character site) _ w, pos, rest => siteSight site (pos - w.length) (w ++ rest)
  | .setStart s, pos, rest => openingsAfter ((setStart s).extent? rest) pos rest
  | .setMember s, pos, rest => openingsAfter ((setMember s).extent? rest) pos rest
  | .setAfter _ _ _, pos, rest => setSight pos rest
  | .setDash _ _ _, pos, rest => setSight pos rest
  | .hex site _ _, pos, rest => siteSight site pos rest
  | .nameBrace site, pos, rest => siteSight site pos rest
  | .octal site _, pos, rest => siteSight site pos rest
  | _, pos, rest => openingsFrom pos rest

/-- Where a construct starts, seen from inside. -/
def Mode.Placed : Mode → Nat → Prop
  | .opened start, pos => pos = start + 1
  | .header start, pos => pos = start + 2
  | .headerP start, pos => pos = start + 3
  | .headerAngle start, pos => pos = start + 3
  | .name .define start w, pos => pos = start + 4 + w.length
  | .name .refer _ w, pos => w.length ≤ pos
  | .name .condition start w, pos => pos = start + 3 + w.length
  | .name (.character _) _ w, pos => w.length ≤ pos
  | .setStart s, _ => s.members = []
  | _, _ => True

/-- The scanner has left a comment that goes on: it does not see that a parenthesis is escaped
there. `astray` says whether it had before the symbol. -/
def Mode.strays (astray : Bool) : Mode → Symbol → Bool
  | .comment _, .escaped c => astray || c = ')'
  | .comment _, .plain c => astray && c != ')'
  | _, _ => false

/-- The scanner takes a symbol of a comment for a group or a class. -/
def Mode.misreads (astray : Bool) : Mode → Symbol → Bool
  | .comment _, .plain c => astray && (c = '(' || c = '[')
  | .lineComment, .plain c => c = '(' || c = '['
  | _, _ => false

/-- The groups that the reader has met. -/
def State.found (st : State) : List Group := st.groups.map MetGroup.toGroup

/-- The groups met, and those that the scanner still finds from an index on. -/
def State.scanned (st : State) (pos : Nat) (rest : Text) : List Group :=
  st.found ++ st.mode.sight pos rest

theorem sight_siteSight_cons {c : Char} (h : Ordinary c) (site : Site) (pos : Nat) (rest : Text) :
    siteSight site pos (c :: rest) = siteSight site (pos + 1) rest := by
  have set : setSight pos (c :: rest) = setSight (pos + 1) rest := by
    rw [setSight, h.members, ← List.singleton_append, openingsAfter_map _ 1 _ rfl, setSight]
  cases site with
  | item => exact h.openings pos rest
  | member s => exact set
  | rangeEnd s y m => exact set

theorem siteSight_named {w : Text} (h : Named w) (site : Site) {pos : Nat} (hp : w.length ≤ pos)
    (rest : Text) : siteSight site (pos - w.length) (w ++ rest) = siteSight site pos rest := by
  have ho := ordinary_of_named h
  have set : setSight (pos - w.length) (w ++ rest) = setSight pos rest := by
    rw [setSight, membersExtent?_ordinary ho, openingsAfter_map _ _ _ rfl, setSight,
      Nat.sub_add_cancel hp]
  cases site with
  | item => rw [siteSight, openingsFrom_ordinary ho, Nat.sub_add_cancel hp, siteSight]
  | member s => exact set
  | rangeEnd s y m => exact set

theorem siteSight_set {site : Site} (h : site ≠ .item) (pos : Nat) (rest : Text) :
    siteSight site pos rest = setSight pos rest := by
  cases site with
  | item => exact absurd rfl h
  | member s => rfl
  | rangeEnd s y m => rfl

/-! ## One symbol -/

variable {st nx : State}

theorem found_enterCapture (start : Nat) (name : Option Text) :
    (st.enterCapture start name).found = st.found ++ [⟨start, name⟩] := by
  simp [State.enterCapture, State.found]

theorem found_noteClosed (o : Opener) : (st.noteClosed o).found = st.found := by
  cases o with
  | capture n =>
    simp only [State.noteClosed, State.noteWidth, State.found]
    apply List.ext_getElem?
    intro i
    rw [List.getElem?_map, List.getElem?_map, List.getElem?_modify]
    cases st.groups[i]? with
    | none => rfl
    | some g => by_cases hi : n - 1 = i <;> simp [hi]
  | _ => rfl

theorem found_quantify {i least : Nat} {most : Option Nat}
    (h : st.quantify i least most = .ok nx) : nx.found = st.found ∧ nx.mode = .repeated := by
  unfold State.quantify at h
  split at h
  · simp at h
  · split at h
    · simp at h
    · split at h
      · simp at h
      · cases h; exact ⟨rfl, rfl⟩

theorem found_setGreed (g : Greed) : (st.setGreed g).found = st.found ∧
    (st.setGreed g).mode = .items := by
  unfold State.setGreed; split <;> exact ⟨rfl, rfl⟩

theorem found_bar (h : st.bar = .ok nx) : nx.found = st.found ∧ nx.mode = st.mode := by
  unfold State.bar at h
  simp only at h
  split at h
  · split at h
    · cases h; exact ⟨rfl, rfl⟩
    · simp at h
  · cases h; exact ⟨rfl, rfl⟩

theorem found_close (h : st.close = .ok nx) : nx.found = st.found ∧ nx.mode = .items := by
  unfold State.close at h
  split at h
  · simp at h
  · next f fs _ => cases h; exact ⟨found_noteClosed f.opener, rfl⟩

/-- The state `nx` before the text after `t` sees what `st` sees before `t`. -/
def Sees (st : State) (t : Text) (nx : State) : Prop :=
  nx.mode.Placed (st.pos + t.length) ∧
    ∀ rest, nx.scanned (st.pos + t.length) rest = st.scanned st.pos (t ++ rest)

theorem Sees.of_found {t : Text} (hf : nx.found = st.found)
    (hp : nx.mode.Placed (st.pos + t.length))
    (h : ∀ rest, nx.mode.sight (st.pos + t.length) rest = st.mode.sight st.pos (t ++ rest)) :
    Sees st t nx := by
  refine ⟨hp, fun rest => ?_⟩
  rw [State.scanned, State.scanned, hf, h rest]

theorem sight_placed {site : Site} (h : Placed st site nx) (pos : Nat) :
    nx.found = st.found ∧ nx.mode.Placed pos ∧
      ∀ rest, nx.mode.sight pos rest = siteSight site pos rest := by
  cases site with
  | item => obtain ⟨r, -, rfl⟩ := h; exact ⟨rfl, trivial, fun _ => rfl⟩
  | member s => obtain ⟨y, m, rfl⟩ := h; exact ⟨rfl, trivial, fun _ => rfl⟩
  | rangeEnd s y m => obtain ⟨n, rfl⟩ := h; exact ⟨rfl, trivial, fun _ => rfl⟩

/-! ### Sets -/

theorem sight_of_inSet {m : Mode} (h : m.InSet) (pos : Nat) (rest : Text) :
    m.sight pos rest = openingsAfter (m.extent? rest) pos rest := by
  cases m with
  | setStart s => rfl
  | setMember s => rfl
  | setAfter s y m => rfl
  | setDash s y m => rfl
  | hex site letter digits => exact siteSight_set h pos rest
  | nameBrace site => exact siteSight_set h pos rest
  | octal site digits => exact siteSight_set h pos rest
  | _ => exact h.elim

theorem placed_of_inSet {m : Mode} (h : m.InSet) (pos : Nat) : m.Placed pos := by
  cases m <;> trivial

theorem sees_set {y : Symbol} (hy : y ≠ .plain '\\') (hs : st.mode.InSet)
    (h : step st y = .ok nx) : Sees st y.text nx := by
  obtain ⟨s, rfl, hx⟩ := set_step hy hs h
  rcases hx with ⟨m, rfl, hm, he⟩ | ⟨rfl, ⟨t, rfl⟩, he⟩ | ⟨rfl, site, start, hn, rfl, he⟩
  · refine .of_found rfl (placed_of_inSet hm _) fun rest => ?_
    rw [sight_of_inSet hs, he]
    rw [openingsAfter_map _ _ _ (length_text y), ← length_text]
    exact sight_of_inSet hm _ _
  · refine .of_found rfl trivial fun rest => ?_
    rw [sight_of_inSet hs]
    simp only [Symbol.text, List.singleton_append, he]
    rfl
  · refine .of_found rfl (Nat.zero_le _) fun rest => ?_
    rw [sight_of_inSet hs]
    simp only [Symbol.text, List.singleton_append, he]
    exact (siteSight_set hn _ _).trans (openingsAfter_map _ 1 _ (u := ['\x7b']) rfl rest).symm

/-! ### Headers and names -/

theorem openingsFrom_silent {start n : Nat} {r : Text} (i : Nat)
    (h : Header.read ('(' :: r) = ⟨.silent, n⟩) (hi : start + n = i) :
    openingsFrom start ('(' :: r) = openingsFrom i (('(' :: r).drop n) := by
  rw [openingsFrom_group, h, ← hi]; rfl

/-- The scanner reads a header with a name. -/
theorem openingsFrom_define {w : Text} (h : Named w) (start : Nat) (rest : Text) :
    openingsFrom start ('(' :: '?' :: 'P' :: '<' :: (w ++ '>' :: rest)) =
      ⟨start, some w⟩ :: openingsFrom (start + 5 + w.length) rest := by
  have hw : '>' ∉ w := fun hm => h _ hm (by decide)
  have read : Header.read ('(' :: '?' :: 'P' :: '<' :: (w ++ '>' :: rest)) =
      ⟨.named w, 4 + w.length + 1⟩ := by
    rw [Header.read, Header.readName, Text.cut?_of_not_mem hw]
  rw [openingsFrom_group, read]
  simp only [Opening.captures, Opening.name?, if_true, List.singleton_append]
  congr 2
  · omega
  · have : '(' :: '?' :: 'P' :: '<' :: (w ++ '>' :: rest) =
        (['(', '?', 'P', '<'] ++ w ++ ['>']) ++ rest := by simp
    rw [this, List.drop_left' (by simp; omega)]

/-- The scanner reads the name of a condition as a group. -/
theorem openingsFrom_condition {w : Text} (h : Named w) (hw : w ≠ []) (i : Nat) (rest : Text) :
    openingsFrom i ('(' :: (w ++ rest)) = ⟨i, none⟩ :: openingsFrom (i + 1) (w ++ rest) := by
  have read : Header.read ('(' :: (w ++ rest)) = ⟨.plain, 1⟩ := by
    cases w with
    | nil => exact absurd rfl hw
    | cons c w =>
      have hc : c ≠ '?' := by rintro rfl; exact h '?' (by simp) (by decide)
      unfold Header.read
      split <;> simp_all
  rw [openingsFrom_group, read]; rfl

theorem sees_readHeader {start : Nat} {y : Symbol} (hs : st.mode = .header start)
    (hp : st.mode.Placed st.pos) (h : readHeader st start y = .ok nx) : Sees st y.text nx := by
  rw [hs] at hp
  have pos : st.pos + 1 = start + 3 := by rw [hp]
  -- the scanner takes the two first characters of the header only
  have ordinary : ∀ c : Char, Ordinary c → c ∉ ['#', 'P', '<'] → ∀ rest,
      openingsFrom (st.pos + 1) rest = st.mode.sight st.pos (c :: rest) := by
    intro c hc hn rest
    rw [hs, Mode.sight, openingsFrom_silent (start + 2) (Header.read_silent hn rest) rfl, pos]
    exact (hc.openings _ _).symm
  rcases readHeader_ok h with ⟨c, o, rfl, ho, rfl⟩ | ⟨rfl, rfl⟩ | ⟨rfl, rfl⟩ | ⟨rfl, rfl⟩ |
    ⟨rfl, rfl⟩ | ⟨rfl, rfl⟩ | ⟨c, f, rfl, hf, rfl⟩
  · refine .of_found rfl trivial fun rest => ordinary c ?_ ?_ rest
    · refine ⟨?_, ?_, ?_, ?_⟩ <;> (rintro rfl; cases ho)
    · simp only [List.mem_cons, List.not_mem_nil, or_false]
      rintro (rfl | rfl | rfl) <;> cases ho
  · exact .of_found rfl (by simp [Mode.Placed, Symbol.text, pos]) fun rest => by rw [hs]; rfl
  · exact .of_found rfl (by simp [Mode.Placed, Symbol.text, pos]) fun rest => by rw [hs]; rfl
  · refine .of_found rfl trivial fun rest => ?_
    rw [hs]
    simp only [Mode.sight, Symbol.text, List.cons_append, List.nil_append]
    rw [openingsFrom_group, Header.read, Header.readComment, commentSight]
    cases hc : Text.cut? ')' rest with
    | none =>
      simp only [Opening.captures, Bool.false_eq_true, if_false, List.nil_append]
      rw [List.drop_eq_nil_of_le (by simp; omega), openingsFrom_nil]
    | some p =>
      obtain ⟨hr, -⟩ := Text.cut?_eq_some hc
      simp only [Opening.captures, Bool.false_eq_true, if_false, List.nil_append]
      have : '(' :: '?' :: '#' :: rest = (['(', '?', '#'] ++ p.1 ++ [')']) ++ p.2 := by
        rw [hr]; simp
      rw [this, List.drop_left' (by simp; omega)]
      congr 1
      simp only [List.length_cons, List.length_nil]
      omega
  · exact .of_found rfl (by simp [Mode.Placed, Symbol.text, pos]) fun rest => by
      rw [hs]
      simp only [Mode.sight, Symbol.text, List.cons_append, List.nil_append]
      rw [openingsFrom_silent (start + 2) (Header.read_silent (by decide) rest) rfl]
      rfl
  · exact .of_found rfl trivial fun rest => ordinary '-' (by decide) (by decide) rest
  · refine .of_found rfl trivial fun rest => ordinary c (ordinary_of_ofLetter? hf) ?_ rest
    simp only [List.mem_cons, List.not_mem_nil, or_false]
    rintro (rfl | rfl | rfl) <;> cases hf

theorem sees_readHeaderP {start : Nat} {y : Symbol} (hs : st.mode = .headerP start)
    (hp : st.mode.Placed st.pos) (h : readHeaderP st start y = .ok nx) : Sees st y.text nx := by
  rw [hs] at hp
  have pos : st.pos + 1 = start + 4 := by rw [hp]
  rcases readHeaderP_ok h with ⟨rfl, rfl⟩ | ⟨rfl, rfl⟩
  · exact .of_found rfl (by simp [Mode.Placed, Symbol.text, pos]) fun rest => by rw [hs]; rfl
  · refine .of_found rfl (by simp [Mode.Placed]) fun rest => ?_
    rw [hs]
    simp only [Mode.sight, Symbol.text, List.cons_append, List.nil_append]
    rw [openingsFrom_silent (start + 2) (n := 2) (by simp [Header.read]) rfl]
    simp only [List.drop_succ_cons, List.drop_zero, List.length_cons, List.length_nil, Nat.sub_zero]
    rw [Ordinary.openings (by decide), Ordinary.openings (by decide), pos]

theorem sees_readHeaderAngle {start : Nat} {y : Symbol} (hs : st.mode = .headerAngle start)
    (hp : st.mode.Placed st.pos) (h : readHeaderAngle st start y = .ok nx) :
    Sees st y.text nx := by
  rw [hs] at hp
  have pos : st.pos + 1 = start + 4 := by rw [hp]
  rcases readHeaderAngle_ok h with ⟨rfl, rfl⟩ | ⟨rfl, rfl⟩ <;>
  · refine .of_found rfl trivial fun rest => ?_
    rw [hs]
    simp only [Mode.sight, Symbol.text, List.cons_append, List.nil_append]
    rw [openingsFrom_silent (start + 2) (n := 2) (by simp [Header.read]) rfl]
    simp only [List.drop_succ_cons, List.drop_zero]
    rw [Ordinary.openings (by decide), Ordinary.openings (by decide)]
    simp only [State.enterLookbehind, State.enter, List.length_cons, List.length_nil, pos]

/-- A name; one that a condition asks for counts for the scanner as a group. -/
theorem sees_readName {use : NameUse} {start : Nat} {w : Text} {y : Symbol}
    (hs : st.mode = .name use start w) (hp : st.mode.Placed st.pos)
    (h : readName st use start w y = .ok nx) :
    if st.mode.asks y then nx.mode.Placed (st.pos + y.text.length) ∧
      ∀ rest, ∃ g, st.scanned st.pos (y.text ++ rest) =
        nx.found ++ g :: nx.mode.sight (st.pos + y.text.length) rest
    else Sees st y.text nx := by
  rw [hs] at hp
  rcases readName_ok h with ⟨hy, hw, hc⟩ | ⟨hy, rfl⟩
  · obtain ⟨hn, hx⟩ := closeName_ok hc
    subst hy
    cases use with
    | define =>
      rw [if_neg (by simp [hs, Mode.asks])]
      obtain rfl := hx
      refine ⟨trivial, fun rest => ?_⟩
      have pos : st.pos + 1 = start + 5 + w.length := by rw [hp]; omega
      rw [State.scanned, State.scanned, found_enterCapture, hs]
      simp only [Mode.sight, NameUse.close, Symbol.text, List.cons_append, List.nil_append,
        List.append_assoc]
      rw [openingsFrom_define hn]
      simp only [State.enterCapture, State.enter, List.length_cons, List.length_nil, Nat.zero_add,
        pos]
    | refer =>
      rw [if_neg (by simp [hs, Mode.asks])]
      obtain ⟨n, rfl⟩ := hx
      refine .of_found rfl trivial fun rest => ?_
      rw [hs]
      simp only [Mode.sight, NameUse.close, Symbol.text, List.cons_append, List.nil_append]
      rw [openingsFrom_ordinary (ordinary_of_named hn), Ordinary.openings (by decide),
        Nat.sub_add_cancel hp]
      rfl
    | condition =>
      rw [if_pos (by simp [hs, Mode.asks, NameUse.close])]
      obtain ⟨n, asked, rfl⟩ := hx
      refine ⟨trivial, fun rest => ⟨⟨start + 2, none⟩, ?_⟩⟩
      have pos : st.pos + 1 = start + 3 + w.length + 1 := by rw [hp]
      rw [State.scanned, hs]
      simp only [Mode.sight, NameUse.close, Symbol.text, List.cons_append, List.nil_append]
      rw [openingsFrom_condition hn hw, openingsFrom_ordinary (ordinary_of_named hn),
        Ordinary.openings (by decide)]
      simp only [State.enter, State.found, List.length_cons, List.length_nil, Nat.zero_add, pos]
    | character site =>
      rw [if_neg (by simp [hs, Mode.asks])]
      obtain ⟨hf, hp', hv⟩ := sight_placed hx (st.pos + 1)
      refine .of_found hf hp' fun rest => (hv rest).trans ?_
      rw [hs]
      simp only [Mode.sight, NameUse.close, Symbol.text, List.cons_append, List.nil_append]
      rw [siteSight_named hn site hp, sight_siteSight_cons (by decide)]
  · clear h
    have asks : st.mode.asks y = false := by
      rw [hs]
      unfold Mode.asks
      split
      · next h => cases h; exact absurd rfl hy
      · rfl
    rw [if_neg (by simp [asks])]
    refine .of_found rfl ?_ fun rest => ?_
    · cases use <;> simp only [Mode.Placed, List.length_append] at hp ⊢ <;> omega
    · rw [hs]
      have back : st.pos + y.text.length - (w ++ y.text).length = st.pos - w.length := by
        simp only [List.length_append]; omega
      cases use <;> simp only [Mode.sight, List.append_assoc, back]

theorem sees_ordinary {c : Char} (hc : Ordinary c) (hf : nx.found = st.found)
    (hm : ∀ pos rest, st.mode.sight pos rest = openingsFrom pos rest)
    (hn : ∀ pos rest, nx.mode.sight pos rest = openingsFrom pos rest)
    (hp : nx.mode.Placed (st.pos + 1)) : Sees st [c] nx :=
  .of_found hf hp fun rest => by rw [hm, hn]; exact (hc.openings _ _).symm

theorem sees_flagsOn {start : Nat} {on : Flags} {y : Symbol} (hs : st.mode = .flagsOn start on)
    (h : readFlagsOn st start on y = .ok nx) : Sees st y.text nx := by
  have sight : ∀ pos rest, st.mode.sight pos rest = openingsFrom pos rest := by
    intro pos rest; rw [hs]; rfl
  rcases readFlagsOn_ok h with ⟨rfl, h⟩ | ⟨rfl, rfl⟩ | ⟨rfl, rfl⟩ | ⟨c, f, rfl, hf, rfl⟩
  · obtain ⟨-, rfl⟩ := setFlags_ok h
    exact sees_ordinary (by decide) rfl sight (fun _ _ => rfl) trivial
  · exact sees_ordinary (by decide) rfl sight (fun _ _ => rfl) trivial
  · exact sees_ordinary (by decide) rfl sight (fun _ _ => rfl) trivial
  · exact sees_ordinary (ordinary_of_ofLetter? hf) rfl sight (fun _ _ => rfl) trivial

theorem sees_flagsDash {start : Nat} {on : Flags} {y : Symbol} (hs : st.mode = .flagsDash start on)
    (h : readFlagsDash st start on y = .ok nx) : Sees st y.text nx := by
  obtain ⟨c, f, rfl, hf, rfl⟩ := readFlagsDash_ok h
  exact sees_ordinary (ordinary_of_ofLetter? hf) rfl (fun _ _ => by rw [hs]; rfl)
    (fun _ _ => rfl) trivial

theorem sees_flagsOff {start : Nat} {on off : Flags} {y : Symbol}
    (hs : st.mode = .flagsOff start on off) (h : readFlagsOff st start on off y = .ok nx) :
    Sees st y.text nx := by
  have sight : ∀ pos rest, st.mode.sight pos rest = openingsFrom pos rest := by
    intro pos rest; rw [hs]; rfl
  rcases readFlagsOff_ok h with ⟨rfl, rfl⟩ | ⟨c, f, rfl, hf, rfl⟩
  · exact sees_ordinary (by decide) rfl sight (fun _ _ => rfl) trivial
  · exact sees_ordinary (ordinary_of_ofLetter? hf) rfl sight (fun _ _ => rfl) trivial

/-! ### Items -/

theorem ordinary_of_isSkipped {c : Char} (h : isSkipped c) : Ordinary c := by
  refine ⟨?_, ?_, ?_, ?_⟩ <;> (rintro rfl; exact absurd h (by decide))

theorem sees_readItem {c : Char} (hb : c ≠ '\\') (hs : st.mode = .items)
    (h : readItem st c = .ok nx) : Sees st [c] nx := by
  have sight : ∀ pos rest, st.mode.sight pos rest = openingsFrom pos rest := by
    intro pos rest; rw [hs]; rfl
  rcases readItem_ok h with ⟨-, hc, rfl⟩ | ⟨-, rfl, rfl⟩ | ⟨rfl, hx⟩ | ⟨rfl, hx⟩ | ⟨rfl, rfl⟩ |
    ⟨rfl, rfl⟩ | ⟨rfl, rfl⟩ | ⟨hc, least, most, hx⟩ | ⟨h1, h2, r, -, rfl⟩
  · exact sees_ordinary (ordinary_of_isSkipped hc) rfl sight sight (by rw [hs]; trivial)
  · exact sees_ordinary (by decide) rfl sight (fun _ _ => rfl) trivial
  · obtain ⟨hf, hm⟩ := found_bar hx
    exact sees_ordinary (by decide) hf sight (by rw [hm]; exact sight) (by rw [hm, hs]; trivial)
  · obtain ⟨hf, hm⟩ := found_close hx
    exact sees_ordinary (by decide) hf sight (fun _ _ => by rw [hm]; rfl) (by rw [hm]; trivial)
  · exact .of_found rfl rfl fun rest => by rw [sight]; rfl
  · refine .of_found rfl rfl fun rest => ?_
    rw [sight, List.singleton_append, openingsFrom_class]
    rfl
  · exact sees_ordinary (by decide) rfl sight (fun _ _ => rfl) trivial
  · obtain ⟨hf, hm⟩ := found_quantify hx
    have ho : Ordinary c := by
      simp only [List.mem_cons, List.not_mem_nil, or_false] at hc
      rcases hc with rfl | rfl | rfl <;> decide
    exact sees_ordinary ho hf sight (fun _ _ => by rw [hm]; rfl) (by rw [hm]; trivial)
  · refine .of_found rfl trivial fun rest => ?_
    rw [sight]
    exact (openingsFrom_plain hb h2 h1 _ _).symm

theorem sees_readItemEscape {c : Char} (hs : st.mode = .items)
    (h : readItemEscape st c = .ok nx) : Sees st ['\\', c] nx := by
  have sight : ∀ rest, openingsFrom (st.pos + 2) rest = st.mode.sight st.pos ('\\' :: c :: rest) := by
    intro rest; rw [hs]; exact (openingsFrom_escape _ _ _).symm
  rcases readItemEscape_ok h with ⟨r, -, rfl⟩ | rfl | rfl | rfl | ⟨-, rfl⟩ <;>
    exact .of_found rfl trivial sight

/-! ### Comments -/

theorem commentSight_cons {c : Char} (hc : c ≠ ')') (pos : Nat) (rest : Text) :
    commentSight pos (c :: rest) = commentSight (pos + 1) rest := by
  rw [commentSight, Text.cut?, if_neg hc, commentSight]
  cases Text.cut? ')' rest with
  | none => rfl
  | some p => simp only [Option.map_some, List.length_cons]; congr 1; omega

theorem commentSight_close (pos : Nat) (rest : Text) :
    commentSight pos (')' :: rest) = openingsFrom (pos + 1) rest := by
  rw [commentSight, Text.cut?, if_pos rfl]; rfl

/-! ### Constructs that go on or end -/

/-- Where a construct ends, nothing that the scanner finds changes: only the header of a group
depends on the text that follows. -/
theorem scanned_settle (hp : st.mode.Placed st.pos) (h : settle st = .ok nx) :
    nx.pos = st.pos ∧ nx.mode.IsSettled ∧ nx.mode.Placed nx.pos ∧
      ∀ rest, (∀ start, st.mode = .opened start → ∀ r, rest ≠ '?' :: r) →
        nx.scanned nx.pos rest = st.scanned st.pos rest := by
  cases settle_ok h with
  | repeated hs => exact ⟨rfl, trivial, trivial, fun _ _ => by simp [State.scanned, hs]; rfl⟩
  | braces hs => exact ⟨rfl, trivial, trivial, fun _ _ => by simp [State.scanned, hs]; rfl⟩
  | @opened start hs =>
    refine ⟨rfl, trivial, trivial, fun rest hr => ?_⟩
    have read : Header.read ('(' :: rest) = ⟨.plain, 1⟩ := by
      have := hr start hs
      unfold Header.read
      split <;> simp_all
    rw [hs] at hp
    rw [State.scanned, State.scanned, found_enterCapture, hs, Mode.sight, openingsFrom_group, read]
    simp only [Opening.captures, if_true, Opening.name?, List.drop_succ_cons, List.drop_zero,
      List.append_assoc]
    rw [← show st.pos = start + 1 from hp]
    rfl
  | octal hs placed =>
    obtain ⟨hf, hp', hv⟩ := sight_placed placed st.pos
    refine ⟨pos_of_placed placed, settled_of_placed placed, pos_of_placed placed ▸ hp', ?_⟩
    intro rest _
    rw [pos_of_placed placed, State.scanned, State.scanned, hf, hv, hs]
    rfl
  | reference n hs =>
    exact ⟨rfl, trivial, trivial, fun _ _ => by simp [State.scanned, hs]; rfl⟩
  | settled hs => exact ⟨rfl, hs, hp, fun _ _ => rfl⟩

theorem sees_extend {y : Symbol} (hp : st.mode.Placed st.pos)
    (h : extend? st y = some (.ok nx)) : Sees st y.text nx := by
  cases extend?_ok h with
  | greed g hs mark =>
    have sight : ∀ pos rest, st.mode.sight pos rest = openingsFrom pos rest := by
      intro pos rest; rw [hs]; rfl
    obtain ⟨hf, hm⟩ := @found_setGreed st g
    exact sees_ordinary (by rcases mark with rfl | rfl <;> decide) hf sight
      (fun _ _ => by rw [hm]; rfl) (by rw [hm]; trivial)
  | braces hs read =>
    obtain ⟨c, rfl, hc, h⟩ := extendBraces?_ok read
    have ho : Ordinary c := by
      rcases hc with hc | rfl | rfl
      · exact ordinary_of_isDigit hc
      · decide
      · decide
    have sight : ∀ pos rest, st.mode.sight pos rest = openingsFrom pos rest := by
      intro pos rest; rw [hs]; rfl
    rcases h with ⟨lo, hi, rfl⟩ | ⟨lo, hi, h⟩
    · exact sees_ordinary ho rfl sight (fun _ _ => rfl) trivial
    · obtain ⟨hf, hm⟩ := found_quantify h
      exact sees_ordinary ho hf sight (fun _ _ => by rw [hm]; rfl) (by rw [hm]; trivial)
  | @opened start hs =>
    rw [hs] at hp
    have hp : st.pos + 1 = start + 2 := congrArg (· + 1) hp
    exact .of_found rfl hp fun rest => by rw [hs]; rfl
  | @octal site _ _ _ hs read =>
    obtain ⟨c, rfl, hc, h⟩ := extendOctal?_ok read
    have ho := ordinary_of_isDigit (isDigit_of_isOctal hc)
    have sight : ∀ rest, siteSight site (st.pos + 1) rest = st.mode.sight st.pos (c :: rest) := by
      intro rest; rw [hs]; exact (sight_siteSight_cons ho site _ _).symm
    rcases h with rfl | h
    · exact .of_found rfl trivial sight
    · obtain ⟨hf, hp, hv⟩ := sight_placed h (st.pos + 1)
      exact .of_found hf hp fun rest => (hv rest).trans (sight rest)
  | reference hs read =>
    obtain ⟨c, rfl, hc, h⟩ := extendReference?_ok read
    have sight : ∀ pos rest, st.mode.sight pos rest = openingsFrom pos rest := by
      intro pos rest; rw [hs]; rfl
    rcases h with rfl | rfl | ⟨r, -, rfl⟩ <;>
      exact sees_ordinary (ordinary_of_isDigit hc) rfl sight (fun _ _ => rfl) trivial

/-! ### Any symbol -/

theorem sees_lineComment {y : Symbol} (hs : st.mode = .lineComment) (hy : y ≠ .plain '\\')
    (hm : st.mode.misreads false y = false) (hf : nx.found = st.found)
    (hx : nx.mode = .items ∨ nx.mode = .lineComment) : Sees st y.text nx := by
  have sight : ∀ {m : Mode}, m = .items ∨ m = .lineComment →
      ∀ pos rest, m.sight pos rest = openingsFrom pos rest := by
    rintro m (rfl | rfl) pos rest <;> rfl
  have placed : nx.mode.Placed (st.pos + y.text.length) := by
    rcases hx with h | h <;> rw [h] <;> trivial
  refine .of_found hf placed fun rest => ?_
  rw [sight hx, sight (.inr hs)]
  cases y with
  | plain c =>
    simp only [hs, Mode.misreads, Bool.or_eq_false_iff, decide_eq_false_iff_not] at hm
    exact (openingsFrom_plain (fun hb => hy (hb ▸ rfl)) hm.2 hm.1 _ _).symm
  | escaped c => exact (openingsFrom_escape _ _ _).symm

theorem sees_react {y : Symbol} (hy : y ≠ .plain '\\') (hp : st.mode.Placed st.pos)
    (hn : st.mode.IsSettled) (hi : ¬ st.mode.InSet) (hc : ∀ start, st.mode ≠ .comment start)
    (hm : st.mode.misreads false y = false) (ha : st.mode.asks y = false)
    (h : react st y = .ok nx) : Sees st y.text nx := by
  cases react_ok hn h with
  | item hs read => exact sees_readItem (fun hb => hy (hb ▸ rfl)) hs read
  | escape hs read => exact sees_readItemEscape hs read
  | lineEnd hs => exact sees_lineComment hs hy hm rfl (.inl rfl)
  | inLine hs _ => exact sees_lineComment hs hy hm rfl (.inr hs)
  | commentEnd hs => exact absurd hs (hc _)
  | inComment hs _ => exact absurd hs (hc _)
  | header hs read => exact sees_readHeader hs hp read
  | headerP hs read => exact sees_readHeaderP hs hp read
  | headerAngle hs read => exact sees_readHeaderAngle hs hp read
  | name hs read => simpa [ha] using sees_readName hs hp read
  | flagsOn hs read => exact sees_flagsOn hs read
  | flagsDash hs read => exact sees_flagsDash hs read
  | flagsOff hs read => exact sees_flagsOff hs read
  | setStart hs _ => exact absurd hp (by rw [hs] at hi ⊢; exact hi)
  | setMember hs _ => exact absurd trivial (by rw [hs] at hi; exact hi)
  | setAfter hs _ => exact absurd trivial (by rw [hs] at hi; exact hi)
  | setDash hs _ => exact absurd trivial (by rw [hs] at hi; exact hi)
  | @hex site _ _ _ _ hs read =>
    obtain ⟨c, rfl, hx, h⟩ := extendHex_ok read
    have sight : ∀ rest, siteSight site (st.pos + 1) rest = st.mode.sight st.pos (c :: rest) := by
      intro rest; rw [hs]; exact (sight_siteSight_cons (ordinary_of_isHex hx) site _ _).symm
    rcases h with rfl | h
    · exact .of_found rfl trivial sight
    · obtain ⟨hf, hp, hv⟩ := sight_placed h (st.pos + 1)
      exact .of_found hf hp fun rest => (hv rest).trans (sight rest)
  | @nameBrace site hs =>
    refine .of_found rfl (Nat.zero_le _) fun rest => ?_
    rw [hs]
    exact (sight_siteSight_cons (by decide) site _ _).symm

theorem misreads_settle (h : settle st = .ok nx) (y : Symbol) :
    (∀ a, nx.mode.misreads a y = st.mode.misreads a y) ∧
      ∀ start, nx.mode = .comment start → st.mode = .comment start := by
  cases settle_ok h with
  | @octal site _ _ hs placed =>
    rw [hs]
    cases site with
    | item => obtain ⟨r, -, rfl⟩ := placed; exact ⟨fun _ => rfl, nofun⟩
    | member s => obtain ⟨y, m, rfl⟩ := placed; exact ⟨fun _ => rfl, nofun⟩
    | rangeEnd s y m => obtain ⟨n, rfl⟩ := placed; exact ⟨fun _ => rfl, nofun⟩
  | settled _ => exact ⟨fun _ => rfl, fun _ => id⟩
  | _ => rw [‹st.mode = _›]; exact ⟨fun _ => rfl, nofun⟩

theorem sees_step {y : Symbol} (hy : y ≠ .plain '\\') (hp : st.mode.Placed st.pos)
    (hc : ∀ start, st.mode ≠ .comment start) (hm : st.mode.misreads false y = false)
    (ha : st.mode.asks y = false) (h : step st y = .ok nx) :
    nx.pos = st.pos + y.text.length ∧ Sees st y.text nx := by
  obtain ⟨s, ht, rfl⟩ := step_ok h
  refine ⟨by simp [length_text], ?_⟩
  by_cases hi : st.mode.InSet
  · exact sees_set hy hi h
  change Sees st y.text s
  rcases take_ok ht with ht | ⟨he, s', h1, h2⟩
  · exact sees_extend hp ht
  · obtain ⟨hpos, hn, hp', hv⟩ := scanned_settle hp h1
    have ha' := asks_settle h1 y
    obtain ⟨hm', hc'⟩ := misreads_settle h1 y
    obtain ⟨hp2, hv2⟩ := sees_react hy hp' hn (hi ∘ inSet_of_settle h1) (fun i h => hc i (hc' i h))
       (by rw [hm', hm]) (by rw [ha', ha]) h2
    rw [hpos] at hp2 hv2
    refine ⟨hp2, fun rest => (hv2 rest).trans ?_⟩
    rw [← hpos]
    refine (hv _ fun start hs r hr => ?_).trans (by rw [hpos])
    rw [extend?, hs] at he
    cases y with
    | plain c =>
      obtain ⟨rfl, -⟩ := List.cons.inj hr
      simp at he
    | escaped c => exact absurd (List.cons.inj hr).1 (by decide)

/-- In a comment the scanner goes on to the first parenthesis that closes. -/
theorem comment_step {start : Nat} {y : Symbol} (hs : st.mode = .comment start)
    (h : step st y = .ok nx) :
    nx.pos = st.pos + y.text.length ∧ nx.found = st.found ∧
      nx.mode = if y = .plain ')' then .items else .comment start := by
  obtain ⟨s, ht, rfl⟩ := step_ok h
  refine ⟨by simp [length_text], ?_⟩
  rw [take_eq_react (by rw [hs]; trivial)] at ht
  simp only [react, hs, Except.ok.injEq] at ht
  subst ht
  split
  · exact ⟨rfl, rfl⟩
  · exact ⟨rfl, hs⟩

/-- A condition on a group counts for the scanner as a group. -/
theorem asks_step {y : Symbol} (hp : st.mode.Placed st.pos) (ha : st.mode.asks y)
    (h : step st y = .ok nx) :
    nx.pos = st.pos + y.text.length ∧ nx.mode.Placed nx.pos ∧
      ∀ rest, ∃ g, st.scanned st.pos (y.text ++ rest) =
        nx.found ++ g :: nx.mode.sight nx.pos rest := by
  obtain ⟨start, w, hs, rfl⟩ : ∃ start w, st.mode = .name .condition start w ∧ y = .plain ')' := by
    unfold Mode.asks at ha
    split at ha
    · next hs => exact ⟨_, _, hs, rfl⟩
    · cases ha
  obtain ⟨s, ht, rfl⟩ := step_ok h
  refine ⟨by simp [length_text], ?_⟩
  have react : react st (.plain ')') = .ok s := by
    simpa [take, extend?, settle, hs, Except.bind] using ht
  have := sees_readName hs hp (by simpa [Reader.react, hs] using react)
  rw [if_pos ha] at this
  exact this

/-! ## A text -/

theorem quiet_sound (h : st.mode.Quiet) (y : Symbol) :
    (∀ start, st.mode ≠ .comment start) ∧ st.mode.misreads false y = false ∧
      st.mode.asks y = false := by
  unfold Mode.Quiet at h
  split at h
  · exact h.elim
  · exact h.elim
  · exact h.elim
  · next h1 h2 h3 =>
    refine ⟨h1, ?_, ?_⟩
    · unfold Mode.misreads
      split
      · next hm => exact absurd hm (h1 _)
      · next hm => exact absurd hm h2
      · rfl
    · unfold Mode.asks
      split
      · next hm => exact absurd hm (h3 _ _)
      · rfl

theorem Passes.pos {t : Text} (h : Passes st t nx) : nx.pos = st.pos + t.length :=
  pos_of_reads h.reads

/-- Over a text without comments and conditions the scanner goes along with the reader. -/
theorem Passes.sees {t : Text} (h : Passes st t nx) (hp : st.mode.Placed st.pos) :
    nx.pos = st.pos + t.length ∧ nx.mode.Placed nx.pos ∧
      ∀ rest, nx.scanned nx.pos rest = st.scanned st.pos (t ++ rest) := by
  induction h with
  | done => exact ⟨rfl, hp, fun _ => rfl⟩
  | @step st s nx y t hy hq hs _ ih =>
    obtain ⟨hc, hm, ha⟩ := quiet_sound hq y
    obtain ⟨hpos, hp', hv⟩ := sees_step hy hp hc hm ha hs
    rw [← hpos] at hp' hv
    obtain ⟨i1, i2, i3⟩ := ih hp'
    refine ⟨?_, i2, fun rest => ?_⟩
    · rw [i1, hpos, List.length_append, Nat.add_assoc]
    · rw [i3, hv, List.append_assoc]

end RoutePattern.Regex.Reader
