import ConfigBinding.Proofs.Declaration.Items

/-!
# What attributes hold

The pieces between the brackets of an attribute, without any function that cuts: they stand behind
each other with commas between them and perhaps one at the end, the brackets in each fit, and no
comma stands outside of these (`Listed`). An attribute that is not for items holds no pieces
(`Holds`).

* `group?_eq_some_iff`: the brackets are closed where what stands between them is balanced.
* `readAll_cut_iff`: the pieces that are cut are the ones that are listed.
* `ofTexts_eq_ok_iff`: the items of several attributes are those that their pieces spell, one after
  another.
-/

set_option autoImplicit false

namespace ConfigBinding.Declaration

namespace Token

/-- Whether a token opens or closes something. -/
def isBracket : Token → Bool
  | opening _ | closing _ => true
  | _ => false

/-- Whether a token is a comma. -/
def isComma : Token → Bool
  | mark ',' _ => true
  | _ => false

end Token

namespace Item

/-! ## Pieces -/

/-- Tokens whose brackets fit. -/
inductive Balanced : List Token → Prop
  | nil : Balanced []
  | plain {t : Token} {ts : List Token} : t.isBracket = false → Balanced ts → Balanced (t :: ts)
  | group (b : Bracket) {inner ts : List Token} : Balanced inner → Balanced ts →
      Balanced (.opening b :: (inner ++ .closing b :: ts))

/-- Tokens whose brackets fit, with no comma outside of them. -/
inductive Piece : List Token → Prop
  | nil : Piece []
  | plain {t : Token} {ts : List Token} : t.isBracket = false → t.isComma = false → Piece ts →
      Piece (t :: ts)
  | group (b : Bracket) {inner ts : List Token} : Balanced inner → Piece ts →
      Piece (.opening b :: (inner ++ .closing b :: ts))

/-- The pieces in tokens: each ends with a comma, where the last need not unless it is empty. -/
inductive Listed : List (List Token) → List Token → Prop
  | nil : Listed [] []
  | last {p : List Token} : Piece p → p ≠ [] → Listed [p] p
  | cons {p : List Token} {ps : List (List Token)} {ts : List Token} (isJoined : Bool) : Piece p →
      Listed ps ts → Listed (p :: ps) (p ++ .mark ',' isJoined :: ts)

theorem Balanced.append {xs ys : List Token} (hx : Balanced xs) (hy : Balanced ys) :
    Balanced (xs ++ ys) := by
  induction hx with
  | nil => exact hy
  | plain ht _ ih => exact .plain ht ih
  | group b hinner _ _ ih => simpa using Balanced.group b hinner ih

theorem Piece.append {xs ys : List Token} (hx : Piece xs) (hy : Piece ys) : Piece (xs ++ ys) := by
  induction hx with
  | nil => exact hy
  | plain ht hcomma _ ih => exact .plain ht hcomma ih
  | group b hinner _ ih => simpa using Piece.group b hinner ih

theorem Piece.balanced {p : List Token} (h : Piece p) : Balanced p := by
  induction h with
  | nil => exact .nil
  | plain ht _ _ ih => exact .plain ht ih
  | group b hinner _ ih => exact .group b hinner ih

theorem Listed.balanced {ps : List (List Token)} {ts : List Token} (h : Listed ps ts) :
    Balanced ts := by
  induction h with
  | nil => exact .nil
  | last hp _ => exact hp.balanced
  | cons isJoined hp _ ih => exact hp.balanced.append (.plain rfl ih)

/-- Tokens in front of a list belong to its first piece. -/
theorem Listed.prepend {p ts : List Token} {ps : List (List Token)} (hp : Piece p) (hne : p ≠ [])
    (h : Listed ps ts) : ∃ qs, Listed qs (p ++ ts) := by
  cases h with
  | nil => exact ⟨[p], by simpa using Listed.last hp hne⟩
  | last hq _ => exact ⟨_, .last (hp.append hq) (by simp [hne])⟩
  | cons isJoined hq hqs =>
    rw [← List.append_assoc]
    exact ⟨_, .cons isJoined (hp.append hq) hqs⟩

/-- Tokens whose brackets fit fall into pieces. -/
theorem Balanced.exists_listed {ts : List Token} (h : Balanced ts) : ∃ ps, Listed ps ts := by
  induction h with
  | nil => exact ⟨[], .nil⟩
  | @plain t ts ht _ ih =>
    obtain ⟨ps, hps⟩ := ih
    by_cases hcomma : t.isComma
    · obtain ⟨isJoined, rfl⟩ : ∃ isJoined, t = .mark ',' isJoined := by
        unfold Token.isComma at hcomma
        split at hcomma
        · exact ⟨_, rfl⟩
        · cases hcomma
      exact ⟨[] :: ps, .cons isJoined .nil hps⟩
    · exact hps.prepend (.plain ht (by simpa using hcomma) .nil) (List.cons_ne_nil t [])
  | @group b inner ts hinner _ _ ih =>
    obtain ⟨ps, hps⟩ := ih
    have hp : Piece (.opening b :: (inner ++ [.closing b])) := .group b hinner .nil
    simpa using hps.prepend hp (List.cons_ne_nil _ _)

/-! ## Cutting -/

section
variable {depth : Nat} {t : Token} {p ts inner : List Token}

theorem extend_ne_nil (t : Token) (ps : List (List Token)) : extend t ps ≠ [] := by
  cases ps <;> simp [extend]

theorem cut_ne_nil (depth : Nat) (ts : List Token) : cut depth ts ≠ [] := by
  unfold cut
  split
  case h_2 => split <;> simp [extend_ne_nil]
  all_goals simp [extend_ne_nil]

theorem cut_plain (ht : t.isBracket = false) (hcomma : t.isComma = false ∨ depth ≠ 0) :
    cut depth (t :: ts) = extend t (cut depth ts) := by
  rw [cut.eq_def]
  split
  case h_2 isJoined rest heq =>
    cases heq
    rw [if_neg (hcomma.resolve_left (by simp [Token.isComma]))]
  case h_5 heq =>
    cases heq
    rfl
  all_goals simp_all [Token.isBracket]

/-- Within brackets nothing is cut. -/
theorem Balanced.cut_append (h : Balanced inner) :
    cut (depth + 1) (inner ++ ts) = inner.foldr extend (cut (depth + 1) ts) := by
  induction h generalizing depth ts with
  | nil => rfl
  | plain ht _ ih =>
    rw [List.cons_append, cut_plain ht (.inr (Nat.succ_ne_zero depth)), ih, List.foldr_cons]
  | group b _ _ ihinner ih => simp [cut, ihinner, ih]

theorem Piece.cut_append (h : Piece p) : cut 0 (p ++ ts) = p.foldr extend (cut 0 ts) := by
  induction h with
  | nil => rfl
  | plain ht hcomma _ ih => rw [List.cons_append, cut_plain ht (.inl hcomma), ih, List.foldr_cons]
  | group b hinner _ ih => simp [cut, hinner.cut_append, ih]

theorem foldr_extend (p q : List Token) (ps : List (List Token)) :
    p.foldr extend (q :: ps) = (p ++ q) :: ps := by
  induction p with
  | nil => rfl
  | cons t p ih => rw [List.foldr_cons, ih, extend, List.cons_append]

theorem Piece.cut_eq (h : Piece p) : cut 0 p = [p] := by
  have hcut : cut 0 (p ++ []) = p.foldr extend (cut 0 []) := h.cut_append
  simpa [cut, foldr_extend] using hcut

theorem Piece.cut_comma (h : Piece p) (isJoined : Bool) :
    cut 0 (p ++ .mark ',' isJoined :: ts) = p :: cut 0 ts := by
  rw [h.cut_append, cut, if_pos rfl, foldr_extend, List.append_nil]

/-! ## Closing -/

/-- Tokens up to the bracket that closes the first of several opened ones, the innermost first: what
stands between two that close is balanced. -/
inductive Unwinds : List Bracket → List Token → Prop
  | first {b : Bracket} {ts : List Token} : Balanced ts → Unwinds [b] ts
  | next {b : Bracket} {opened : List Bracket} {inner ts : List Token} : Balanced inner →
      Unwinds opened ts → Unwinds (b :: opened) (inner ++ .closing b :: ts)

theorem Unwinds.prepend {opened : List Bracket} (hp : Balanced p) (h : Unwinds opened ts) :
    Unwinds opened (p ++ ts) := by
  cases h with
  | first h => exact .first (hp.append h)
  | next hinner h =>
    rw [← List.append_assoc]
    exact .next (hp.append hinner) h

/-- An opened bracket that is closed is a group of what remains. -/
theorem Unwinds.group {b : Bracket} {opened : List Bracket} (hne : opened ≠ [])
    (h : Unwinds (b :: opened) ts) : Unwinds opened (.opening b :: ts) := by
  cases h with
  | first => exact absurd rfl hne
  | @next _ _ inner ts hinner h =>
    simpa using h.prepend (.group b hinner .nil)

theorem group?_plain (ht : t.isBracket = false) (opened : List Bracket) (ts : List Token) :
    group? opened (t :: ts) = (group? opened ts).map fun g => (t :: g.1, g.2) := by
  rw [group?.eq_def]
  split <;> simp_all [Token.isBracket]

theorem group?_append (h : Balanced inner) (b : Bracket) (opened : List Bracket) (ts : List Token) :
    group? (b :: opened) (inner ++ ts) =
      (group? (b :: opened) ts).map fun g => (inner ++ g.1, g.2) := by
  induction h generalizing b opened ts with
  | nil => simp
  | plain ht _ ih =>
    rw [List.cons_append, group?_plain ht, ih, Option.map_map]
    rfl
  | group c _ _ ihinner ih =>
    simp [group?, ihinner, ih, Option.map_map, Function.comp_def]

theorem unwinds_of_group? {opened : List Bracket} {rest : List Token} (hne : opened ≠ [])
    (h : group? opened ts = some (inner, rest)) :
    Unwinds opened inner ∧ ts = inner ++ .closing (opened.getLast hne) :: rest := by
  -- General in the opened brackets: behind one more the induction hypothesis tells of it too.
  fun_induction group? opened ts generalizing inner with
  | case1 => cases h
  | case2 opened b ts ih =>
    obtain ⟨⟨inner, rest⟩, hg, heq⟩ := Option.map_eq_some_iff.mp h
    cases heq
    obtain ⟨hinner, rfl⟩ := ih (List.cons_ne_nil b opened) hg
    exact ⟨hinner.group hne, by simp [hne]⟩
  | case3 => exact absurd rfl hne
  | case4 b ts =>
    cases h
    exact ⟨.first .nil, rfl⟩
  | case5 => cases h
  | case6 ts b opened hopened ih =>
    obtain ⟨⟨inner, rest⟩, hg, heq⟩ := Option.map_eq_some_iff.mp h
    cases heq
    obtain ⟨hinner, rfl⟩ := ih hopened hg
    exact ⟨.next .nil hinner, by rw [List.getLast_cons hopened, List.cons_append]⟩
  | case7 => cases h
  | case8 opened t ts hopen hclose ih =>
    obtain ⟨⟨inner, rest⟩, hg, heq⟩ := Option.map_eq_some_iff.mp h
    cases heq
    obtain ⟨hinner, rfl⟩ := ih hne hg
    have ht : t.isBracket = false := by
      cases t with
      | opening b => exact (hopen b rfl).elim
      | closing b => exact (hclose b rfl).elim
      | _ => rfl
    exact ⟨hinner.prepend (.plain ht .nil), rfl⟩

theorem group?_eq_some_iff {b : Bracket} {rest : List Token} :
    group? [b] ts = some (inner, rest) ↔ Balanced inner ∧ ts = inner ++ .closing b :: rest := by
  constructor
  · intro h
    obtain ⟨hinner, hts⟩ := unwinds_of_group? (List.cons_ne_nil b []) h
    cases hinner with
    | first hinner => exact ⟨hinner, hts⟩
    | next _ hnone => cases hnone
  · rintro ⟨hinner, rfl⟩
    simp [group?_append hinner, group?]

end

/-! ## Reading pieces -/

section
variable {p ts : List Token} {ps qs : List (List Token)} {items : List Item}

/-- A piece is read unless it is empty and the last one. -/
theorem readAll_cons_eq_ok_iff {rest : List (List Token)} (h : p ≠ [] ∨ rest ≠ []) :
    readAll (p :: rest) = .ok items ↔
      ∃ item more, Spelled p item ∧ readAll rest = .ok more ∧ items = item :: more := by
  have hread : readAll (p :: rest) =
      (read rest.isEmpty p).bind fun item => (readAll rest).map (item :: ·) := by
    rw [readAll.eq_def]
    split
    case h_1 heq => cases heq
    case h_2 heq =>
      cases heq
      simp at h
    case h_3 heq =>
      cases heq
      cases read rest.isEmpty p <;> rfl
  rw [hread]
  constructor
  · intro hok
    cases hitem : read rest.isEmpty p with
    | error fault => simp [hitem, Except.bind] at hok
    | ok item =>
      rw [hitem] at hok
      obtain ⟨more, hmore, rfl⟩ := map_eq_ok_iff.mp hok
      exact ⟨item, more, read_eq_ok_iff.mp hitem, hmore, rfl⟩
  · rintro ⟨item, more, hitem, hmore, rfl⟩
    rw [read_eq_ok_iff.mpr hitem, hmore]
    rfl

/-- The items that are read are those that the pieces spell. -/
theorem readAll_cut_iff (h : Listed ps ts) :
    readAll (cut 0 ts) = .ok items ↔ List.Forall₂ Spelled ps items := by
  induction h generalizing items with
  | nil =>
    rw [List.forall₂_nil_left_iff]
    exact ⟨fun hok => (Except.ok.inj hok).symm, fun hitems => hitems ▸ rfl⟩
  | last hp hne =>
    rw [hp.cut_eq, readAll_cons_eq_ok_iff (.inl hne), List.forall₂_cons_left_iff]
    constructor
    · rintro ⟨item, more, hitem, hmore, rfl⟩
      exact ⟨item, more, hitem, List.forall₂_nil_left_iff.mpr (Except.ok.inj hmore).symm, rfl⟩
    · rintro ⟨item, more, hitem, hmore, rfl⟩
      exact ⟨item, more, hitem, congrArg Except.ok (List.forall₂_nil_left_iff.mp hmore).symm, rfl⟩
  | cons isJoined hp _ ih =>
    rw [hp.cut_comma, readAll_cons_eq_ok_iff (.inr (cut_ne_nil 0 _)), List.forall₂_cons_left_iff]
    constructor
    · rintro ⟨item, more, hitem, hmore, rfl⟩
      exact ⟨item, more, hitem, ih.mp hmore, rfl⟩
    · rintro ⟨item, more, hitem, hmore, rfl⟩
      exact ⟨item, more, hitem, ih.mpr hmore, rfl⟩

/-- What is cut are the pieces, and an empty one behind a comma at the end. -/
theorem Listed.cut_eq (h : Listed ps ts) :
    cut 0 ts = ps ∧ ps.getLast? ≠ some [] ∨ cut 0 ts = ps ++ [[]] := by
  induction h with
  | nil => exact .inr rfl
  | last hp hne => exact .inl ⟨hp.cut_eq, by simpa using hne⟩
  | @cons p ps ts isJoined hp _ ih =>
    rw [hp.cut_comma]
    rcases ih with ⟨hcut, hlast⟩ | hcut
    · obtain ⟨q, ps, rfl⟩ := List.exists_cons_of_ne_nil (hcut ▸ cut_ne_nil 0 ts)
      exact .inl ⟨by rw [hcut], by rwa [List.getLast?_cons_cons]⟩
    · exact .inr (by rw [hcut, List.cons_append])

/-- Tokens fall into pieces in one way at most. -/
theorem Listed.unique (hp : Listed ps ts) (hq : Listed qs ts) : ps = qs := by
  rcases hp.cut_eq with ⟨hps, hplast⟩ | hps <;> rcases hq.cut_eq with ⟨hqs, hqlast⟩ | hqs
  · exact hps.symm.trans hqs
  · rw [← hps, hqs, List.getLast?_concat] at hplast
    exact absurd rfl hplast
  · rw [← hqs, hps, List.getLast?_concat] at hqlast
    exact absurd rfl hqlast
  · exact List.append_cancel_right (hps.symm.trans hqs)

end

/-! ## Attributes -/

theorem exists_forall₂_iff {α β : Type} {R : α → β → Prop} {xs : List α} :
    (∃ ys, List.Forall₂ R xs ys) ↔ ∀ x ∈ xs, ∃ y, R x y := by
  induction xs with
  | nil => simp
  | cons x xs ih => simp [List.forall₂_cons_left_iff, ← ih]

/-- Whether an attribute is named as one that holds items. -/
def NamedForItems (ts : List Token) : Prop :=
  ∃ rest, ts = .word attributeName false :: rest ∧ ¬ CarriesOn rest

/-- The pieces that the tokens of an attribute hold: those between the brackets behind its name,
none if it is not one for items. -/
inductive Holds : List Token → List (List Token) → Prop
  | items (b : Bracket) {inner : List Token} {pieces : List (List Token)} : Listed pieces inner →
      Holds (.word attributeName false :: .opening b :: (inner ++ [.closing b])) pieces
  | other {ts : List Token} : ¬ NamedForItems ts → Holds ts []

/-- The pieces that the text of an attribute holds. -/
def HoldsText (s : String) (pieces : List (List Token)) : Prop :=
  ∃ ts, Token.scan? s.toList = some ts ∧ Holds ts pieces

section
variable {ts rest : List Token} {items : List Item} {pieces others : List (List Token)}

theorem ofArguments_eq_ok_iff :
    ofArguments rest = .ok items ↔
      ∃ b inner pieces, rest = .opening b :: (inner ++ [.closing b]) ∧ Listed pieces inner ∧
        List.Forall₂ Spelled pieces items := by
  constructor
  · intro h
    unfold ofArguments at h
    split at h
    case h_3 b ts =>
      split at h
      case h_1 inner hgroup =>
        obtain ⟨hinner, rfl⟩ := group?_eq_some_iff.mp hgroup
        obtain ⟨pieces, hpieces⟩ := hinner.exists_listed
        exact ⟨b, inner, pieces, rfl, hpieces, (readAll_cut_iff hpieces).mp h⟩
      case h_2 => cases h
    all_goals cases h
  · rintro ⟨b, inner, pieces, rfl, hpieces, hitems⟩
    have hgroup : group? [b] (inner ++ [.closing b]) = some (inner, []) :=
      group?_eq_some_iff.mpr ⟨hpieces.balanced, rfl⟩
    rw [ofArguments, hgroup]
    exact (readAll_cut_iff hpieces).mpr hitems

theorem ofTokens_named (h : ¬ CarriesOn rest) :
    ofTokens (.word attributeName false :: rest) = ofArguments rest := by
  rw [ofTokens, if_pos ⟨rfl, rfl⟩]
  rintro isJoined more rfl
  exact h ⟨isJoined, more, rfl⟩

theorem ofTokens_other (h : ¬ NamedForItems ts) : ofTokens ts = .ok [] := by
  unfold ofTokens
  split
  case h_1 name isRaw rest =>
    split
    case h_1 => rfl
    case h_2 hcarries =>
      rw [if_neg]
      rintro ⟨rfl, rfl⟩
      refine h ⟨rest, rfl, ?_⟩
      rintro ⟨isJoined, more, rfl⟩
      exact hcarries isJoined more rfl
  case h_2 => rfl

theorem not_carriesOn_opening (b : Bracket) (ts : List Token) : ¬ CarriesOn (.opening b :: ts) := by
  rintro ⟨_, _, h⟩
  cases h

theorem ofTokens_eq_ok_iff :
    ofTokens ts = .ok items ↔ ∃ pieces, Holds ts pieces ∧ List.Forall₂ Spelled pieces items := by
  constructor
  · intro h
    by_cases hnamed : NamedForItems ts
    · obtain ⟨rest, rfl, hends⟩ := hnamed
      rw [ofTokens_named hends] at h
      obtain ⟨b, inner, pieces, rfl, hpieces, hitems⟩ := ofArguments_eq_ok_iff.mp h
      exact ⟨pieces, .items b hpieces, hitems⟩
    · rw [ofTokens_other hnamed] at h
      cases h
      exact ⟨[], .other hnamed, .nil⟩
  · rintro ⟨pieces, hholds, hitems⟩
    cases hholds with
    | items b hpieces =>
      rw [ofTokens_named (not_carriesOn_opening b _)]
      exact ofArguments_eq_ok_iff.mpr ⟨b, _, pieces, rfl, hpieces, hitems⟩
    | other hnamed =>
      rw [ofTokens_other hnamed, List.forall₂_nil_left_iff.mp hitems]

example :
    ofTokens [.word "config" false, .opening .round, .word "env" false, .mark '=' false,
      .literal (.text "A"), .mark ',' false, .word "secret" false, .mark ',' false,
      .closing .round] =
    .ok [.tag .key "A", .flag .secret true] := by
  decide

theorem Holds.unique (h : Holds ts pieces) (ho : Holds ts others) : pieces = others := by
  cases h with
  | @items b inner _ hpieces =>
    generalize hts :
      Token.word attributeName false :: .opening b :: (inner ++ [.closing b]) = ts at ho
    cases ho with
    | @items c inner' _ hothers =>
      simp only [List.cons.injEq, true_and] at hts
      obtain ⟨-, hinner⟩ := hts
      rw [List.append_singleton_inj] at hinner
      obtain ⟨rfl, -⟩ := hinner
      exact hpieces.unique hothers
    | other hnamed => exact absurd ⟨_, hts.symm, not_carriesOn_opening b _⟩ hnamed
  | other hnamed =>
    cases ho with
    | items b => exact absurd ⟨_, rfl, not_carriesOn_opening b _⟩ hnamed
    | other => rfl

theorem HoldsText.unique {s : String} (h : HoldsText s pieces) (ho : HoldsText s others) :
    pieces = others := by
  obtain ⟨ts, hts, h⟩ := h
  obtain ⟨_, hts', ho⟩ := ho
  cases hts.symm.trans hts'
  exact h.unique ho

theorem ofText_eq_ok_iff {s : String} :
    ofText s = .ok items ↔ ∃ pieces, HoldsText s pieces ∧ List.Forall₂ Spelled pieces items := by
  unfold ofText HoldsText
  cases Token.scan? s.toList with
  | none => simp
  | some ts => simp [ofTokens_eq_ok_iff]

end

/-- The pieces that the texts of attributes hold, one after another. -/
def HoldInOrder (ss : List String) (pieces : List (List Token)) : Prop :=
  ∃ held, List.Forall₂ HoldsText ss held ∧ held.flatten = pieces

section
variable {s : String} {ss : List String} {items : List Item} {pieces others : List (List Token)}

theorem holdInOrder_cons_iff :
    HoldInOrder (s :: ss) pieces ↔
      ∃ first rest, HoldsText s first ∧ HoldInOrder ss rest ∧ pieces = first ++ rest := by
  constructor
  · rintro ⟨held, hheld, rfl⟩
    obtain ⟨first, more, hfirst, hmore, rfl⟩ := List.forall₂_cons_left_iff.mp hheld
    exact ⟨first, more.flatten, hfirst, ⟨more, hmore, rfl⟩, rfl⟩
  · rintro ⟨first, rest, hfirst, ⟨held, hheld, rfl⟩, rfl⟩
    exact ⟨first :: held, .cons hfirst hheld, rfl⟩

theorem HoldInOrder.unique (h : HoldInOrder ss pieces) (ho : HoldInOrder ss others) :
    pieces = others := by
  obtain ⟨held, hheld, rfl⟩ := h
  obtain ⟨held', hheld', rfl⟩ := ho
  have hunique : Relator.RightUnique HoldsText := fun _ _ _ => HoldsText.unique
  rw [hunique.forall₂ hheld hheld']

/-- Attributes hold pieces in order if each holds some. -/
theorem exists_holdInOrder_iff :
    (∃ pieces, HoldInOrder ss pieces) ↔ ∀ s ∈ ss, ∃ pieces, HoldsText s pieces := by
  rw [← exists_forall₂_iff]
  constructor
  · rintro ⟨_, held, hheld, rfl⟩
    exact ⟨held, hheld⟩
  · rintro ⟨held, hheld⟩
    exact ⟨held.flatten, held, hheld, rfl⟩

/-- The items of several attributes are those that the pieces spell which they hold in order. -/
theorem ofTexts_eq_ok_iff :
    ofTexts ss = .ok items ↔
      ∃ pieces, HoldInOrder ss pieces ∧ List.Forall₂ Spelled pieces items := by
  induction ss generalizing items with
  | nil =>
    simp [ofTexts, HoldInOrder, eq_comm]
  | cons s ss ih =>
    constructor
    · intro h
      rw [ofTexts] at h
      cases hfirst : ofText s with
      | error fault => simp [hfirst] at h
      | ok first =>
        rw [hfirst] at h
        obtain ⟨rest, hrest, rfl⟩ := map_eq_ok_iff.mp h
        obtain ⟨ps, hps, hfirst⟩ := ofText_eq_ok_iff.mp hfirst
        obtain ⟨qs, hqs, hrest⟩ := ih.mp hrest
        exact ⟨ps ++ qs, holdInOrder_cons_iff.mpr ⟨ps, qs, hps, hqs, rfl⟩,
          List.rel_append hfirst hrest⟩
    · rintro ⟨pieces, hpieces, hitems⟩
      obtain ⟨ps, qs, hps, hqs, rfl⟩ := holdInOrder_cons_iff.mp hpieces
      have hfirst : List.Forall₂ Spelled ps (items.take ps.length) :=
        (List.forall₂_take_append items ps qs hitems.flip).flip
      have hrest : List.Forall₂ Spelled qs (items.drop ps.length) :=
        (List.forall₂_drop_append items ps qs hitems.flip).flip
      rw [ofTexts, ofText_eq_ok_iff.mpr ⟨ps, hps, hfirst⟩, ih.mpr ⟨qs, hqs, hrest⟩]
      exact congrArg Except.ok (List.take_append_drop ps.length items)

end

end Item

end ConfigBinding.Declaration
