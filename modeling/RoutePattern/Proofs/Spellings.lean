import RoutePattern.Proofs.Numbering
import RoutePattern.Proofs.Template.Shortened
import RoutePattern.Proofs.Unterminated
import RoutePattern.Proofs.Wildcards

/-! # The two spellings of named groups

A template may spell the header of a named group `(?<name>`; it is written `(?P<name>`. The group of a
parameter is not rewritten, so there only the long spelling is of use.

* `SameDraft`: two drafts differ at most in where their parameters stand in the template.
  `draft_shortened`: those of a template and its shortened form, if no group of a parameter differs.
* `exists_short`, `written_short`: a parameter whose group differs, and what becomes of the header.
  `isShortable_of_isIdentifier`: every proper name may stand in a short header.
* `not_accepts_short`: the reader refuses a short header.
* `compile_shortened`: a shortened template. `short_group_refused`: one where the group of a parameter
  differs.
-/

namespace RoutePattern

open Scan Regex Regex.Reader

variable {o : Options} {t u : Text} {k k' : Token} {ks ls : List Token} {d e : Draft}

/-! ## Keys -/

/-- What a key says apart from where it comes from. -/
def Key.label (k : Key) : KeyName × Bool := (k.name, k.optional)

/-- What the known keys say, apart from where they come from. -/
def KnownKeys.labels (known : KnownKeys) : List (Nat × (KeyName × Bool)) :=
  known.map fun x => (x.1, x.2.label)

theorem label_key? (known : KnownKeys) (i : Nat) :
    (known.key? i).map Key.label = known.labels.reverse.lookup i := by
  have found : ∀ l : KnownKeys, (l.lookup i).map Key.label = l.labels.lookup i := by
    intro l
    induction l with
    | nil => rfl
    | cons x l ih =>
      rw [KnownKeys.labels, List.map_cons, List.lookup_cons, List.lookup_cons]
      cases i == x.1 with
      | true => rfl
      | false => exact ih
  rw [KnownKeys.key?, found, KnownKeys.labels, KnownKeys.labels, List.map_reverse]

/-- The labels of the keys that groups get depend on those of the known keys only. -/
theorem labels_assign {known known' : KnownKeys} (h : known.labels = known'.labels) (next : Int)
    (gs : List Group) :
    ((assign known next gs).map Assigned.key).map Key.label =
      ((assign known' next gs).map Assigned.key).map Key.label := by
  induction gs generalizing next with
  | nil => rfl
  | cons g gs ih =>
    have same : (known.key? g.index).map Key.label = (known'.key? g.index).map Key.label := by
      rw [label_key?, label_key?, h]
    rw [assign, assign]
    cases hk : known.key? g.index with
    | some x =>
      rw [hk] at same
      obtain ⟨y, hy, label⟩ := Option.map_eq_some_iff.1 same.symm
      simp only [hy, List.map_cons, ih, label]
    | none =>
      rw [hk] at same
      have none := Option.map_eq_none_iff.1 same.symm
      rw [none]
      cases g.name <;> simp only [List.map_cons, ih]

/-! ## Drafts -/

/-- The group that a parameter has of its own. -/
def Token.capture? : Token → Option Text
  | .param p => p.capture
  | _ => none

/-- The drafts differ at most in where their parameters stand in the template. -/
structure SameDraft (d e : Draft) : Prop where
  source : d.source = e.source
  guard : d.guard = e.guard
  labels : d.named.labels = e.named.labels

/-- A token becomes the same where its headers are short, if the group of a parameter is the same. -/
theorem sameDraft_push (h : SameDraft d e) (hk : k.Shortened k') (hc : k'.capture? = k.capture?) :
    SameDraft (d.push k) (e.push k') := by
  have pushed : ∀ l : Token, (d.newKeys l).labels = (e.newKeys l).labels := by
    intro l
    cases l with
    | param p =>
      rw [Draft.newKeys, Draft.newKeys, h.source]
      rfl
    | _ => rfl
  have same : ∀ l : Token, SameDraft (d.push l) (e.push l) := fun l =>
    { source := by rw [Draft.push, Draft.push, h.source, h.guard]
      guard := by rw [Draft.push, Draft.push, h.guard]
      labels := by
        have labels := h.labels
        unfold KnownKeys.labels at labels pushed ⊢
        rw [Draft.push, Draft.push, List.map_append, List.map_append, labels, pushed] }
  cases hk with
  | same => exact same k
  | @header name colon _ =>
    have long := same (.header (longHeader name ++ colon) (some name))
    exact ⟨long.source, long.guard, long.labels⟩
  | @capture p c qs _ _ =>
    have own : { p with capture := some (spell qs) } = p := by
      rw [show some (spell qs) = p.capture from hc]
    rw [own]
    exact same _

theorem sameDraft_foldl (h : SameDraft d e) (hk : List.Forall₂ Token.Shortened ks ls)
    (hc : ls.map Token.capture? = ks.map Token.capture?) :
    SameDraft (ks.foldl Draft.push d) (ls.foldl Draft.push e) := by
  induction hk generalizing d e with
  | nil => exact h
  | cons first _ ih =>
    obtain ⟨own, rest⟩ := List.cons.inj hc
    exact ih (sameDraft_push h first own) rest

theorem draft_shortened (h : List.Forall₂ Token.Shortened (tokens t) ls)
    (hc : ls.map Token.capture? = (tokens t).map Token.capture?) :
    SameDraft (draft t) (draft (ls.flatMap Token.text)) := by
  have whole := sameDraft_foldl (d := {}) (e := {}) ⟨rfl, rfl, rfl⟩ h hc
  rw [draft, draft, tokens_shortened h]
  exact whole

/-- Templates with the same draft compile alike. -/
theorem compile_of_sameDraft (h : SameDraft (draft t) (draft u)) (p : Progress) :
    (compile o (.template u) p).1 = (compile o (.template t) p).1 ∧
      (compile o (.template u) p).2.keys.map Key.label =
        (compile o (.template t) p).2.keys.map Key.label := by
  rw [compile, compile, compileTemplate, compileTemplate]
  constructor
  · rw [h.source, Progress.conclude, Progress.conclude]
    cases Pattern.read o.flags (o.anchored (draft u).source) <;> rfl
  · rw [keys_conclude, keys_conclude, Progress.keys_collect, Progress.keys_collect,
      List.map_append, List.map_append, h.source, labels_assign h.labels]

/-! ## Short headers in a group -/

/-- Where the headers in a row differ, one of them is short. -/
theorem exists_header_short {ps qs : List Piece} (h : ShortenedRow ps qs) (ne : qs ≠ ps) :
    ∃ as name bs, IsShortable name ∧ qs = as ++ ((shortHeader name).map .char ++ bs) := by
  induction h with
  | nil => exact absurd rfl ne
  | piece p _ ih =>
    obtain ⟨as, name, bs, hn, rfl⟩ := ih fun same => ne (congrArg _ same)
    exact ⟨p :: as, name, bs, hn, rfl⟩
  | header hn _ _ => exact ⟨[], _, _, hn, rfl⟩

/-- Where the groups of parameters differ, one of them has a short header. -/
theorem exists_short (h : List.Forall₂ Token.Shortened ks ls)
    (hc : ls.map Token.capture? ≠ ks.map Token.capture?) :
    ∃ as bs p c qs, ls = as ++ .param { p with capture := some (spell qs) } :: bs ∧
      .param p ∈ ks ∧ p.capture = some c ∧ ShortenedRow (pieces c) qs ∧ qs ≠ pieces c := by
  induction h with
  | nil => exact absurd rfl hc
  | @cons k k' ks ls first rest ih =>
    by_cases same : k'.capture? = k.capture?
    · have later : ls.map Token.capture? ≠ ks.map Token.capture? := fun all =>
        hc (congrArg₂ List.cons same all)
      obtain ⟨as, bs, p, c, qs, rfl, mem, found⟩ := ih later
      exact ⟨k' :: as, bs, p, c, qs, rfl, List.mem_cons_of_mem _ mem, found⟩
    · cases first with
      | same => exact absurd rfl same
      | header _ => exact absurd rfl same
      | @capture p c qs own row =>
        refine ⟨[], ls, p, c, qs, rfl, List.mem_cons_self, own, row, fun all => same ?_⟩
        show some (spell qs) = p.capture
        rw [own, all, spell, text_pieces]

theorem isGroup_of_mem {p : Param} {c : Text} (h : .param p ∈ tokens t) (hc : p.capture = some c) :
    IsGroup c := by
  obtain ⟨as, bs, split⟩ := List.append_of_mem h
  obtain ⟨_, _, -, first, -⟩ := first_of_tokens split
  exact capture_readParam (readParam_of_first first ▸ hc)

/-- Expanding wildcards leaves a short header as it is. -/
theorem expandPieces_short (as bs : List Piece) {name : Text} (hn : IsShortable name)
    (hb : '\\' ∉ name) :
    ∃ c v, c ∉ ['\\', '=', '!'] ∧
      expandPieces false (as ++ ((shortHeader name).map .char ++ bs)) =
        expandPieces false as ++ '(' :: '?' :: '<' :: c :: v := by
  obtain ⟨c, w, text, hc⟩ : ∃ c w, name ++ ['>'] = c :: w ∧ c ∉ ['\\', '=', '!'] := by
    cases name with
    | nil => exact ⟨'>', [], rfl, by decide⟩
    | cons d name =>
      refine ⟨d, _, rfl, ?_⟩
      have h1 : d ≠ '=' := fun h => hn.ahead (congrArg some h)
      have h2 : d ≠ '!' := fun h => hn.not_ahead (congrArg some h)
      have h3 : d ≠ '\\' := fun h => hb (h ▸ List.mem_cons_self)
      simp [h1, h2, h3]
  have inside : ∃ v, expandPieces true ((c :: w).map .char ++ bs) = c :: v := by
    by_cases star : c = '*'
    · exact ⟨_, by rw [star, List.map_cons, List.cons_append, expandPieces_star]; rfl⟩
    · exact ⟨_, by rw [List.map_cons, List.cons_append, expandPieces_char star]⟩
  obtain ⟨v, hv⟩ := inside
  refine ⟨c, v, hc, ?_⟩
  have row : (shortHeader name).map Piece.char ++ bs =
      .char '(' :: .char '?' :: .char '<' :: ((c :: w).map .char ++ bs) := by
    rw [← text]
    rfl
  rw [row, expandPieces_append_char (by decide), expandPieces_char (by decide),
    expandPieces_char (by decide)]
  exact congrArg (fun x => _ ++ '(' :: '?' :: '<' :: x) hv

/-- A parameter whose group has a short header is written with it. -/
theorem written_short {p : Param} {qs as bs : List Piece} {name : Text}
    (hp : p.capture = some (spell qs)) (hq : ∀ q ∈ qs, q.IsClosed) (hn : IsShortable name)
    (split : qs = as ++ ((shortHeader name).map .char ++ bs)) (g : Text) :
    ∃ front c v, p.written g = front ++ '(' :: '?' :: '<' :: c :: v ∧ IsSpelled front ∧
      c ∉ ['\\', '=', '!'] := by
  have plain : '\\' ∉ name := by
    intro mem
    have closed := hq (.char '\\') (by rw [split]; simp [shortHeader, mem])
    exact closed.1 rfl
  obtain ⟨c, v, hc, expanded⟩ := expandPieces_short as bs hn plain
  rw [← split] at expanded
  have before : IsSpelled (expandPieces false as) :=
    isSpelled_expandPieces (fun q hm => hq q (by rw [split]; simp [hm])) false
  -- the expanded group may stand in parentheses of its own
  obtain ⟨ahead, w, group, spelled⟩ : ∃ ahead w, p.group g =
      ahead ++ '(' :: '?' :: '<' :: c :: w ∧ IsSpelled ahead := by
    rw [Param.group, hp]
    dsimp only
    rw [Param.ownGroup, expandWildcards, pieces_spell hq, expanded]
    split
    · exact ⟨_, _, rfl, before⟩
    · exact ⟨'(' :: expandPieces false as, _, by simp; rfl,
        (isSpelled_chars (t := ['(']) (by decide)).append before⟩
  have mark : IsSpelled ['(', '?', ':'] := isSpelled_chars (by decide)
  have slash := (isMatched_optional p.slash '/' (by decide)).isSpelled
  have opening : IsSpelled p.opening :=
    (mark.append slash).append (isMatched_formatText p).isSpelled
  have whole : p.written g =
      (p.opening ++ ahead) ++ '(' :: '?' :: '<' :: c ::
        (w ++ p.restGroup ++ [')'] ++ if p.marks.optional then ['?'] else []) := by
    rw [Param.written, group]
    simp
  exact ⟨_, c, _, whole, opening.append spelled, hc⟩

/-! ## Reading -/

/-- Behind `(?<` the reader takes look-behinds only. -/
theorem not_accepts_short {st : State} {c : Char} {v : Text} (hs : st.mode.IsBare)
    (hc : c ∉ ['\\', '=', '!']) : ¬ Accepts st ('(' :: '?' :: '<' :: c :: v) := by
  intro ha
  simp only [List.mem_cons, List.not_mem_nil, or_false, not_or] at hc
  obtain ⟨s, -, ha⟩ := header_of_accepts hs ha
  obtain ⟨m, hm, ha⟩ := (accepts_plain (by decide)).1 ha
  have angle : step s.heading (.plain '<') =
      .ok { s.heading with mode := .headerAngle s.pos, pos := s.heading.pos + 1 } := rfl
  obtain rfl := Except.ok.inj (angle.symm.trans hm)
  obtain ⟨nx, hx, -⟩ := (accepts_plain hc.1).1 ha
  obtain ⟨s', ht, rfl⟩ := step_ok hx
  have settled : Mode.IsSettled (.headerAngle st.pos) := trivial
  rw [take_eq_react settled] at ht
  obtain ⟨mark, -⟩ | ⟨mark, -⟩ := readHeaderAngle_ok ht
  · exact hc.2.1 (Symbol.plain.inj mark)
  · exact hc.2.2 (Symbol.plain.inj mark)

/-- A template with a short header in the group of a parameter is refused. -/
theorem compile_short {as bs : List Token} {p : Param} {qs : List Piece} {cs ds : List Piece}
    {name : Text} (ht : tokens t = as ++ .param p :: bs) (hp : p.capture = some (spell qs))
    (hq : ∀ q ∈ qs, q.IsClosed) (hn : IsShortable name)
    (split : qs = cs ++ ((shortHeader name).map .char ++ ds))
    (hc : Uncommented (start o.flags) (o.anchored (draft t).source)) (g : Progress) :
    ∃ e, (compile o (.template t) g).1 = .error (.ofError (o.anchored (draft t).source) e) := by
  rw [compile, compileTemplate, Progress.conclude]
  cases hr : Pattern.read o.flags (o.anchored (draft t).source) with
  | error e => exact ⟨e, rfl⟩
  | ok x =>
    exfalso
    have ha := accepts_begun hr
    have hc := uncommented_begun hc
    rw [source_draft, ht, writtenFrom_append, List.append_assoc] at hc ha
    have bare : (begun o.flags).mode.Classless := .inl trivial
    -- the tokens before the parameter, then the parameter up to the header
    obtain ⟨m, -, h1, h2, h3, -⟩ := reads_tokens ht (List.cons_ne_nil _ _) isGuard_nil bare hc ha
    obtain ⟨ahead, c, v, written, spelled, mark⟩ :=
      written_short hp hq hn split (guardFrom [] as)
    rw [writtenFrom, Token.written, written, List.append_assoc, List.append_assoc] at h2 h3
    obtain ⟨nx, -, i1, -, i3, i4⟩ := rises_spelled spelled h1 h2 h3
    have here : nx.mode.IsBare := i1.resolve_right (i3.here (by decide))
    exact not_accepts_short here mark i4

/-! ## Templates -/

/-- Every name that a group may have may stand in a short header. -/
theorem isShortable_of_isIdentifier {name : Text} (h : Text.isIdentifier name) :
    IsShortable name := by
  have starts : ∀ c ∈ ['=', '!'], Text.startsIdentifier c = false := by decide
  have first : ∀ c ∈ ['=', '!'], name.head? ≠ some c := by
    intro c hc head
    obtain ⟨r, rfl⟩ := List.head?_eq_some_iff.1 head
    rw [Text.isIdentifier, starts c hc] at h
    cases h
  exact
    { closed := fun mem => Text.named_of_isIdentifier h _ mem (by decide)
      ahead := first '=' (by decide)
      not_ahead := first '!' (by decide) }

/-- A parameter with a group of its own, in which a named group is spelled for short. -/
theorem shortened_in_param :
    List.Forall₂ Token.Shortened (tokens "/:id((?P<n>a))".toList)
      [.param ⟨⟨true, false, "id".toList⟩, some "((?<n>a))".toList, ⟨false, false⟩⟩] := by
  have long : tokens "/:id((?P<n>a))".toList =
      [.param ⟨⟨true, false, "id".toList⟩, some "((?P<n>a))".toList, ⟨false, false⟩⟩] := by
    decide +kernel
  have read : pieces "((?P<n>a))".toList =
      .char '(' :: ((longHeader ['n']).map .char ++ [.char 'a', .char ')', .char ')']) := by
    decide +kernel
  have named : IsShortable ['n'] := isShortable_of_isIdentifier (by decide)
  have row : ShortenedRow (pieces "((?P<n>a))".toList)
      (.char '(' :: ((shortHeader ['n']).map .char ++ [.char 'a', .char ')', .char ')'])) := by
    rw [read]
    exact .piece _ (.header named (.piece _ (.piece _ (.piece _ .nil))))
  rw [long]
  exact .cons (.capture rfl row) .nil

/-- A template in which headers of named groups are short, `(?<name>` for `(?P<name>`. If none of them
stands in the group of a parameter, it compiles as before: to the same pattern, or with the same
failure, and with the same keys but for where the parameters stand. If one does, it is refused, unless
a parenthesis or a bracket that opens stands in a comment of its expression. -/
theorem compile_shortened (h : List.Forall₂ Token.Shortened (tokens t) ls)
    (hu : ls.flatMap Token.text = u) (p : Progress) :
    (ls.map Token.capture? = (tokens t).map Token.capture? →
      (compile o (.template u) p).1 = (compile o (.template t) p).1 ∧
        (compile o (.template u) p).2.keys.map Key.label =
          (compile o (.template t) p).2.keys.map Key.label) ∧
    (ls.map Token.capture? ≠ (tokens t).map Token.capture? →
      Uncommented (start o.flags) (o.anchored (draft u).source) →
      ∃ e, (compile o (.template u) p).1 = .error (.ofError (o.anchored (draft u).source) e)) := by
  subst hu
  constructor
  · intro hc
    exact compile_of_sameDraft (draft_shortened h hc) p
  · intro hc comments
    obtain ⟨as, bs, q, c, qs, split, mem, own, row, ne⟩ := exists_short h hc
    have group := isGroup_of_mem mem own
    obtain ⟨cs, name, ds, hn, parts⟩ := exists_header_short row ne
    have closed : ∀ x ∈ qs, x.IsClosed := by
      have long := closed_pieces group.isMatched.isSpelled
      exact fun x hx => long x (row.sublist.subset hx)
    exact compile_short ((tokens_shortened h).trans split) rfl closed hn parts comments p

/-- The header of a group in the template is written with its letter, the one in the group of a
parameter is not. -/
theorem compile_shortened_group :
    ((compile {} (.template "/(?<n>a)".toList) {}).1 =
          (compile {} (.template "/(?P<n>a)".toList) {}).1 ∧
        (compile {} (.template "/(?<n>a)".toList) {}).2.keys.map Key.label =
          (compile {} (.template "/(?P<n>a)".toList) {}).2.keys.map Key.label) ∧
      ∃ e, (compile {} (.template "/:id((?<n>a))".toList) {}).1 =
        .error (.ofError "^(?:/((?<n>a)))/?$".toList e) := by
  constructor
  · have long : tokens "/(?P<n>a)".toList =
        [.literal '/', .header (longHeader ['n'] ++ []) (some ['n']),
          .literal 'a', .literal ')'] := by
      decide +kernel
    have named : IsShortable ['n'] := isShortable_of_isIdentifier (by decide)
    have row : List.Forall₂ Token.Shortened (tokens "/(?P<n>a)".toList)
        [.literal '/', .header (shortHeader ['n'] ++ []) (some ['n']),
          .literal 'a', .literal ')'] := by
      rw [long]
      exact .cons (.same _) (.cons (.header named) (.cons (.same _) (.cons (.same _) .nil)))
    exact (compile_shortened (o := {}) row rfl {}).1 (by rw [long]; rfl)
  · have source : Options.anchored {} (draft "/:id((?<n>a))".toList).source =
        "^(?:/((?<n>a)))/?$".toList := by decide +kernel
    obtain ⟨e, refused⟩ := (compile_shortened (o := {}) (u := "/:id((?<n>a))".toList)
      shortened_in_param rfl {}).2
      (by decide +kernel)
      (by
        rw [source]
        exact uncommented_of_not_mem (by decide) id)
    rw [source] at refused
    exact ⟨e, refused⟩

/-- With the short spelling in the group of a parameter the template is refused, with the long one it
compiles. -/
theorem short_group_refused :
    ∃ ls, List.Forall₂ Token.Shortened (tokens "/:id((?P<n>a))".toList) ls ∧
      ls.flatMap Token.text = "/:id((?<n>a))".toList ∧
      (compile {} (.template "/:id((?P<n>a))".toList) {}).1.toOption.isSome ∧
      (compile {} (.template "/:id((?<n>a))".toList) {}).1.toOption = none :=
  ⟨_, shortened_in_param, rfl, by decide +kernel, by decide +kernel⟩

/-- In a comment that hides a parenthesis from the reader the short spelling is not refused. -/
example :
    ((compile {} (.template "/:id(a(?#(?<n>[)((])))".toList) {}).1.toOption.map (·.source)) =
      some "^(?:/(a(?#(?<n>[)((]))))/?$".toList := by
  decide +kernel

end RoutePattern
