import Mathlib.Data.List.Flatten
import Mathlib.Logic.Relation
import RoutePattern.Proofs.Reader.Name
import RoutePattern.Proofs.Reader.Run

/-! # What a symbol does to the tree

Of the expression that is being read, what matters later are the capture groups and the conditions
in it (`Regex.nodes`, `State.nodes`) and which groups are still open (`State.openers`).

* `Effect`: one change to these. A group opens or closes, and a capture group or a condition is in
  the expression once it has closed; items, repeats and bars change nothing.
* `effects_step`, `asks_opens`: a symbol has such effects, unless it opens a condition.
-/

namespace RoutePattern.Regex

/-- The capture groups and conditions in an expression. -/
def nodes : Regex → List Regex
  | seq r s => r.nodes ++ s.nodes
  | alt r s => r.nodes ++ s.nodes
  | rep _ _ _ body => body.nodes
  | capture n body => capture n body :: body.nodes
  | lookahead _ body => body.nodes
  | lookbehind _ _ body => body.nodes
  | cond n yes no => cond n yes no :: (yes.nodes ++ no.nodes)
  | atomic body => body.nodes
  | flagged _ _ body => body.nodes
  | _ => []

theorem nodes_of_isLeaf {r : Regex} (h : r.isLeaf) : r.nodes = [] := by
  cases r <;> first | rfl | cases h

theorem nodes_concat (rs : List Regex) : (concat rs).nodes = rs.flatMap nodes := by
  induction rs with
  | nil => rfl
  | cons r rs ih =>
    cases rs with
    | nil => simp [concat]
    | cons s rs =>
      rw [concat, nodes, ih, List.flatMap_cons (x := r)]
      simp

theorem nodes_choice (r : Regex) (rs : List Regex) :
    (choice r rs).nodes = (r :: rs).flatMap nodes := by
  induction rs generalizing r with
  | nil => simp [choice]
  | cons s rs ih => rw [choice, nodes, ih]; simp

namespace Reader

/-- The capture groups and conditions in some expressions. -/
abbrev allNodes (rs : List Regex) : List Regex := rs.flatMap nodes

/-- The capture groups and conditions that have been read around an open group. -/
def Frame.nodes (f : Frame) : List Regex := allNodes f.items ++ allNodes f.branches

/-- The capture groups and conditions that have been read. -/
def State.nodes (st : State) : List Regex :=
  allNodes st.items ++ allNodes st.branches ++ st.frames.flatMap Frame.nodes

/-- The groups that are open, the innermost first. -/
def State.openers (st : State) : List Opener := st.frames.map Frame.opener

/-- The opener captures or asks a condition. -/
def Opener.isNode : Opener → Bool
  | .capture _ => true
  | .condition _ => true
  | _ => false

def Opener.isCondition : Opener → Bool
  | .condition _ => true
  | _ => false

/-- What a group that closes adds to the capture groups and conditions. -/
def State.own (st : State) (o : Opener) : List Regex := if o.isNode then [st.closed o] else []

/-- One change to what has been read. -/
inductive Effect (st nx : State) : Prop
  | keep : nx.nodes.Perm st.nodes → nx.openers = st.openers →
      nx.groups.length = st.groups.length → Effect st nx
  | enter (o : Opener) : o.isNode = false → nx.nodes.Perm st.nodes →
      nx.openers = o :: st.openers → nx.groups.length = st.groups.length → Effect st nx
  | capture : nx.nodes.Perm st.nodes → nx.openers = .capture st.nextGroup :: st.openers →
      nx.groups.length = st.groups.length + 1 → Effect st nx
  | close (o : Opener) : nx.nodes.Perm (st.own o ++ st.nodes) → st.openers = o :: nx.openers →
      nx.groups.length = st.groups.length → Effect st nx

/-- A row of changes. -/
abbrev Effects : State → State → Prop := Relation.ReflTransGen Effect

variable {st nx : State}

/-! ## Changes to the items -/

theorem allNodes_reverse (rs : List Regex) : (allNodes rs.reverse).Perm (allNodes rs) :=
  (List.reverse_perm rs).flatMap_right _

theorem allNodes_alternatives :
    (allNodes (st.alternatives.1 :: st.alternatives.2)).Perm
      (allNodes st.items ++ allNodes st.branches) := by
  have split : st.alternatives.1 :: st.alternatives.2 =
      (concat st.items.reverse :: st.branches).reverse := by
    unfold State.alternatives
    split
    · next h => simp at h
    · next h => rw [h]
  rw [split]
  refine (allNodes_reverse _).trans ?_
  rw [allNodes, List.flatMap_cons, nodes_concat]
  exact (allNodes_reverse _).append_right _

theorem nodes_body : st.body.nodes.Perm (allNodes st.items ++ allNodes st.branches) := by
  rw [State.body, nodes_choice]
  exact allNodes_alternatives

theorem nodes_closed (o : Opener) :
    (st.closed o).nodes.Perm (st.own o ++ (allNodes st.items ++ allNodes st.branches)) := by
  cases o with
  | condition n =>
    simp only [State.closed, State.own, Opener.isNode, if_true, nodes, nodes_concat]
    exact allNodes_alternatives.cons _
  | capture n => exact nodes_body.cons _
  | flagged on off => exact nodes_body
  | atomic => exact nodes_body
  | lookahead negated => exact nodes_body
  | lookbehind negated => exact nodes_body

theorem Effect.of_same (hi : nx.items = st.items) (hb : nx.branches = st.branches)
    (hf : nx.frames = st.frames) (hg : nx.groups = st.groups) : Effect st nx :=
  .keep (by simp [State.nodes, hi, hb, hf]) (by simp [State.openers, hf]) (by rw [hg])

theorem effect_push {r : Regex} (h : r.isLeaf) : Effect st (st.push r) :=
  .keep (by simp [State.nodes, State.push, nodes_of_isLeaf h]) rfl rfl

theorem effect_placed {site : Site} (h : Placed st site nx) : Effect st nx := by
  cases site with
  | item => obtain ⟨r, hr, rfl⟩ := h; exact effect_push hr
  | member s => obtain ⟨y, m, rfl⟩ := h; exact .of_same rfl rfl rfl rfl
  | rangeEnd s y m => obtain ⟨n, rfl⟩ := h; exact .of_same rfl rfl rfl rfl

theorem effect_pushLiterals (t : Text) : Effect st (st.pushLiterals t) := by
  have leaves : allNodes (t.reverse.map fun c => Regex.char c.toNat) = [] := by
    simp [allNodes, nodes]
  refine .keep ?_ rfl rfl
  simp only [State.nodes, State.pushLiterals, allNodes] at leaves ⊢
  rw [List.flatMap_append, leaves, List.nil_append]

theorem effect_quantify {i least : Nat} {most : Option Nat}
    (h : st.quantify i least most = .ok nx) : Effect st nx := by
  unfold State.quantify at h
  split at h
  · simp at h
  · next r rs hi =>
    split at h
    · simp at h
    · split at h
      · simp at h
      · cases h; exact .keep (by simp [State.nodes, hi, Regex.nodes]) rfl rfl

theorem effect_setGreed (g : Greed) : Effect st (st.setGreed g) := by
  unfold State.setGreed
  split
  · next hi => exact .keep (by simp [State.nodes, hi, Regex.nodes]) rfl rfl
  · exact .of_same rfl rfl rfl rfl

theorem effect_bar (h : st.bar = .ok nx) : Effect st nx := by
  obtain rfl : nx = { st with
      branches := concat st.items.reverse :: st.branches, items := [] } := by
    unfold State.bar at h
    simp only at h
    split at h
    · split at h
      · exact (Except.ok.inj h).symm
      · simp at h
    · exact (Except.ok.inj h).symm
  refine .keep ?_ rfl rfl
  simp only [State.nodes, allNodes, List.flatMap_nil, List.nil_append, List.flatMap_cons,
    nodes_concat]
  exact ((allNodes_reverse _).append_right _).append_right _

/-! ## Groups -/

theorem nodes_enter (o : Opener) (i : Nat) (v : Bool) : (st.enter o i v).nodes.Perm st.nodes := by
  simp [State.nodes, State.enter, Frame.nodes]

theorem effect_enter {o : Opener} (ho : o.isNode = false) (i : Nat) (v : Bool) :
    Effect st (st.enter o i v) := .enter o ho (nodes_enter o i v) rfl rfl

theorem effect_enterLookbehind (i : Nat) (negated : Bool) :
    Effect st (st.enterLookbehind i negated) :=
  .enter (.lookbehind negated) rfl (nodes_enter _ i st.verbose) rfl rfl

theorem effect_enterCapture (i : Nat) (name : Option Text) :
    Effect st (st.enterCapture i name) :=
  .capture (nodes_enter _ i st.verbose) rfl (by simp [State.enterCapture])

theorem length_noteClosed (o : Opener) : (st.noteClosed o).groups.length = st.groups.length := by
  cases o <;> simp [State.noteClosed, State.noteWidth]

theorem effect_close (h : st.close = .ok nx) : Effect st nx := by
  unfold State.close at h
  split at h
  · simp at h
  · next f fs hf =>
    obtain rfl := Except.ok.inj h
    refine .close f.opener ?_ (by simp [State.openers, hf]) (length_noteClosed _)
    simp only [State.nodes, hf, allNodes, List.flatMap_cons, Frame.nodes]
    rw [List.perm_iff_count]
    intro r
    have closed := List.perm_iff_count.1 (@nodes_closed st f.opener) r
    simp only [List.count_append, allNodes] at closed ⊢
    omega

/-! ## One symbol -/

theorem effect_mode (m : Mode) : Effect st { st with mode := m } := .of_same rfl rfl rfl rfl

theorem effect_readItem {c : Char} (h : readItem st c = .ok nx) : Effect st nx := by
  rcases readItem_ok h with ⟨-, -, rfl⟩ | ⟨-, -, rfl⟩ | ⟨-, h⟩ | ⟨-, h⟩ | ⟨-, rfl⟩ | ⟨-, rfl⟩ |
    ⟨-, rfl⟩ | ⟨-, least, most, h⟩ | ⟨-, -, r, hr, rfl⟩
  · exact .of_same rfl rfl rfl rfl
  · exact effect_mode _
  · exact effect_bar h
  · exact effect_close h
  · exact effect_mode _
  · exact effect_mode _
  · exact effect_mode _
  · exact effect_quantify h
  · exact effect_push hr

theorem effect_readItemEscape {c : Char} (h : readItemEscape st c = .ok nx) : Effect st nx := by
  rcases readItemEscape_ok h with ⟨r, hr, rfl⟩ | rfl | rfl | rfl | ⟨-, rfl⟩
  · exact effect_push hr
  all_goals exact effect_mode _

theorem effect_readSetEscape {site : Site} {c : Char} (h : readSetEscape st site c = .ok nx) :
    Effect st nx := by
  rcases readSetEscape_ok h with h | rfl | rfl | rfl
  · exact effect_placed h
  all_goals exact effect_mode _

theorem effect_closeSet (s : OpenSet) : Effect st (st.closeSet s) := .keep (.refl _) rfl rfl

theorem effect_readSetMember {s : OpenSet} {y : Symbol} (h : readSetMember st s y = .ok nx) :
    Effect st nx := by
  rcases readSetMember_ok h with ⟨c, -, h⟩ | ⟨-, -, rfl⟩ | ⟨c, -, -, rfl⟩
  · exact effect_readSetEscape h
  · exact effect_closeSet s
  · exact effect_mode _

theorem effect_readHeader {start : Nat} {y : Symbol} (h : readHeader st start y = .ok nx) :
    Effect st nx := by
  rcases readHeader_ok h with ⟨c, o, -, ho, rfl⟩ | ⟨-, rfl⟩ | ⟨-, rfl⟩ | ⟨-, rfl⟩ | ⟨-, rfl⟩ |
    ⟨-, rfl⟩ | ⟨c, f, -, -, rfl⟩
  · refine effect_enter ?_ start st.verbose
    unfold headerOpener? at ho
    split at ho <;> cases ho <;> rfl
  all_goals exact effect_mode _

theorem effect_flags {start : Nat} {on off : Flags} : Effect st (enterFlagged st start on off) :=
  effect_enter rfl _ _

theorem effect_settle (h : settle st = .ok nx) : Effect st nx := by
  cases settle_ok h with
  | repeated _ => exact effect_mode _
  | braces _ => exact effect_pushLiterals _
  | opened _ => exact effect_enterCapture _ none
  | octal _ placed => exact effect_placed placed
  | reference n _ => exact effect_push rfl
  | settled _ => exact .of_same rfl rfl rfl rfl

theorem effect_extend {y : Symbol} (h : extend? st y = some (.ok nx)) : Effect st nx := by
  cases extend?_ok h with
  | greed g _ _ => exact effect_setGreed g
  | braces _ read =>
    obtain ⟨c, -, -, ⟨lo, hi, rfl⟩ | ⟨lo, hi, hx⟩⟩ := extendBraces?_ok read
    · exact effect_mode _
    · exact effect_quantify hx
  | opened _ => exact effect_mode _
  | octal _ read =>
    obtain ⟨c, -, -, rfl | hp⟩ := extendOctal?_ok read
    · exact effect_mode _
    · exact effect_placed hp
  | reference _ read =>
    obtain ⟨c, -, -, rfl | rfl | ⟨r, hr, rfl⟩⟩ := extendReference?_ok read
    · exact effect_mode _
    · exact effect_mode _
    · exact effect_push hr

theorem effect_readName {use : NameUse} {start : Nat} {w : Text} {y : Symbol}
    (hs : st.mode = .name use start w) (ha : st.mode.asks y = false)
    (h : readName st use start w y = .ok nx) : Effect st nx := by
  rcases readName_ok h with ⟨hy, -, hc⟩ | ⟨-, rfl⟩
  · obtain ⟨-, hx⟩ := closeName_ok hc
    cases use with
    | define => rw [show nx = _ from hx]; exact effect_enterCapture _ _
    | refer => obtain ⟨n, rfl⟩ := hx; exact effect_push rfl
    | condition => rw [hs, hy] at ha; cases ha
    | character site => exact effect_placed hx
  · exact effect_mode _

theorem effect_react {y : Symbol} (hn : st.mode.IsSettled) (ha : st.mode.asks y = false)
    (h : react st y = .ok nx) : Effect st nx := by
  cases react_ok hn h with
  | item _ read => exact effect_readItem read
  | escape _ read => exact effect_readItemEscape read
  | lineEnd _ => exact effect_mode _
  | inLine _ _ => exact .of_same rfl rfl rfl rfl
  | commentEnd _ => exact effect_mode _
  | inComment _ _ => exact .of_same rfl rfl rfl rfl
  | header _ read => exact effect_readHeader read
  | headerP _ read => obtain ⟨-, rfl⟩ | ⟨-, rfl⟩ := readHeaderP_ok read <;> exact effect_mode _
  | headerAngle _ read =>
    obtain ⟨-, rfl⟩ | ⟨-, rfl⟩ := readHeaderAngle_ok read <;> exact effect_enterLookbehind _ _
  | name hs read => exact effect_readName hs ha read
  | flagsOn _ read =>
    rcases readFlagsOn_ok read with ⟨-, hx⟩ | ⟨-, rfl⟩ | ⟨-, rfl⟩ | ⟨c, f, -, -, rfl⟩
    · obtain ⟨-, rfl⟩ := setFlags_ok hx; exact .of_same rfl rfl rfl rfl
    · exact effect_flags
    · exact effect_mode _
    · exact effect_mode _
  | flagsDash _ read => obtain ⟨c, f, -, -, rfl⟩ := readFlagsDash_ok read; exact effect_mode _
  | flagsOff _ read =>
    rcases readFlagsOff_ok read with ⟨-, rfl⟩ | ⟨c, f, -, -, rfl⟩
    · exact effect_flags
    · exact effect_mode _
  | setStart _ read =>
    obtain ⟨-, rfl⟩ | ⟨-, hx⟩ := readSetStart_ok read
    · exact effect_mode _
    · exact effect_readSetMember hx
  | setMember _ read => exact effect_readSetMember read
  | setAfter _ read =>
    obtain ⟨-, rfl⟩ | ⟨-, hx⟩ := readSetAfter_ok read
    · exact effect_mode _
    · exact effect_readSetMember hx
  | setDash _ read =>
    rcases readSetDash_ok read with ⟨c, -, hx⟩ | ⟨-, t, -, rfl⟩ | ⟨c, r, -, -, rfl⟩
    · exact effect_readSetEscape hx
    · exact effect_closeSet t
    · exact effect_mode _
  | hex _ read =>
    obtain ⟨c, -, -, rfl | hp⟩ := extendHex_ok read
    · exact effect_mode _
    · exact effect_placed hp
  | nameBrace _ => exact effect_mode _

theorem effects_step {y : Symbol} (ha : st.mode.asks y = false) (h : step st y = .ok nx) :
    Effects st nx := by
  obtain ⟨s, ht, rfl⟩ := step_ok h
  have moved : Effect s { s with pos := st.pos + y.size } := .of_same rfl rfl rfl rfl
  refine Relation.ReflTransGen.tail ?_ moved
  rcases take_ok ht with ht | ⟨-, s', h1, h2⟩
  · exact .single (effect_extend ht)
  · exact .tail (.single (effect_settle h1))
      (effect_react (settled_of_settle h1) ((asks_settle h1 y).trans ha) h2)

/-- The symbol that closes the name in a condition opens the condition. -/
theorem asks_opens {y : Symbol} (ha : st.mode.asks y) (h : step st y = .ok nx) :
    nx.nodes.Perm st.nodes ∧ nx.groups = st.groups ∧
      ∃ n, nx.openers = .condition n :: st.openers := by
  obtain ⟨start, w, hs, rfl⟩ := eq_of_asks ha
  obtain ⟨s, ht, rfl⟩ := step_ok h
  have read : readName st .condition start w (.plain ')') = .ok s := by
    simpa [take, extend?, settle, react, hs, Except.bind] using ht
  rcases readName_ok read with ⟨-, -, hc⟩ | ⟨hy, -⟩
  · obtain ⟨-, n, asked, rfl⟩ := closeName_ok hc
    exact ⟨nodes_enter _ start st.verbose, rfl, n, rfl⟩
  · exact absurd rfl hy

end Reader

end RoutePattern.Regex
