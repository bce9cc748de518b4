import ConfigBinding.Proofs.Environment.Offers
import Mathlib.Data.Finset.Card

/-!
# Environments after any edits

An environment starts empty, from pairs, or from the variables of a process, and is edited from then
on: a variable is set, a key is set by hand, or entries are layered. Every start and every edit is
an offer of variables (`Start.environment_eq`, `edit_eq`), so that a whole run is one offer to the
empty environment (`reached_eq`). A process offers what is text of its variables, told by how texts
are encoded (`ProcessOffers`). List and index are kept in step by each variable that is set
(`index_perm_insert`).
-/

set_option autoImplicit false

namespace ConfigBinding.Environment

/-- What an environment is made from. -/
inductive Start where
  | empty
  | ofPairs (pairs : List (String × String))
  | ofProcess (pairs : List (List UInt8 × List UInt8))

namespace Start

/-- The environment that is made. -/
def environment : Start → Environment
  | empty => Environment.empty
  | ofPairs pairs => Environment.ofPairs pairs
  | ofProcess pairs => Environment.ofProcess pairs

/-- The pairs of a process and the variables that they offer: a pair of a key and a value in UTF-8
offers these as of the process, and any other pair offers nothing. -/
inductive ProcessOffers : List (List UInt8 × List UInt8) → List Variable → Prop
  | nil : ProcessOffers [] []
  | text (key value : String) {pairs : List (List UInt8 × List UInt8)} {offers : List Variable} :
      ProcessOffers pairs offers →
      ProcessOffers ((Text.bytes key, Text.bytes value) :: pairs) (⟨key, value, .process⟩ :: offers)
  | other {pair : List UInt8 × List UInt8} {pairs : List (List UInt8 × List UInt8)}
      {offers : List Variable} : (∀ key value, pair ≠ (Text.bytes key, Text.bytes value)) →
      ProcessOffers pairs offers → ProcessOffers (pair :: pairs) offers

/-- The variables that are offered for it. -/
def Offers : Start → List Variable → Prop
  | empty, offers => offers = []
  | ofPairs pairs, offers => offers = pairs.map fun p => ⟨p.1, p.2, .explicit⟩
  | ofProcess pairs, offers => ProcessOffers pairs offers

/-- A variable is read of a pair exactly if the pair is the bytes of its key and value. -/
theorem processVariable?_eq_some_iff {pair : List UInt8 × List UInt8} {v : Variable} :
    processVariable? pair = some v ↔
      ∃ key value, pair = (Text.bytes key, Text.bytes value) ∧ v = ⟨key, value, .process⟩ := by
  constructor
  · intro h
    unfold processVariable? at h
    split at h
    · rename_i key value hkey hvalue
      exact ⟨key, value, Prod.ext (Text.ofBytes?_eq_some_iff.mp hkey).symm
        (Text.ofBytes?_eq_some_iff.mp hvalue).symm, (Option.some.inj h).symm⟩
    · cases h
  · rintro ⟨key, value, rfl, rfl⟩
    simp only [processVariable?, Text.ofBytes?_bytes]

/-- What the pairs of a process offer is what is read of them. -/
theorem processOffers_iff {pairs : List (List UInt8 × List UInt8)} {offers : List Variable} :
    ProcessOffers pairs offers ↔ offers = pairs.filterMap processVariable? := by
  constructor
  · intro h
    induction h with
    | nil => rfl
    | text key value _ ih =>
      have hread := processVariable?_eq_some_iff.mpr ⟨key, value, rfl, rfl⟩
      rw [ih, List.filterMap_cons_some hread]
    | @other pair _ _ hother _ ih =>
      have hnone : processVariable? pair = none := by
        rw [Option.eq_none_iff_forall_ne_some]
        intro v hv
        obtain ⟨key, value, hpair, -⟩ := processVariable?_eq_some_iff.mp hv
        exact hother key value hpair
      rw [ih, List.filterMap_cons_none hnone]
  · rintro rfl
    induction pairs with
    | nil => exact .nil
    | cons pair pairs ih =>
      cases hv : processVariable? pair with
      | none =>
        rw [List.filterMap_cons_none hv]
        refine .other (fun key value hpair => ?_) ih
        cases hv.symm.trans (processVariable?_eq_some_iff.mpr ⟨key, value, hpair, rfl⟩)
      | some v =>
        obtain ⟨key, value, rfl, rfl⟩ := processVariable?_eq_some_iff.mp hv
        rw [List.filterMap_cons_some hv]
        exact .text key value ih

/-- A start offers one list of variables, and its environment takes them on. -/
theorem exists_offers (start : Start) :
    ∃ initial, (∀ other, start.Offers other ↔ other = initial) ∧
      start.environment = Environment.empty.insertAll initial := by
  cases start with
  | empty => exact ⟨[], fun _ => Iff.rfl, rfl⟩
  | ofPairs pairs => exact ⟨_, fun _ => Iff.rfl, rfl⟩
  | ofProcess pairs => exact ⟨_, fun _ => processOffers_iff, rfl⟩

end Start

/-- A change to an environment. -/
inductive Edit where
  | set (v : Variable)
  | setExplicit (key value : String)
  | layer (entries : List Entry)

/-- The variables that an edit offers, in turn. -/
def Edit.offers : Edit → List Variable
  | set v => [v]
  | setExplicit key value => [⟨key, value, .explicit⟩]
  | layer entries => entries.filterMap Entry.variable?

/-- The environment after an edit. -/
def edit (e : Environment) : Edit → Environment
  | .set v => (e.insert v).1
  | .setExplicit key value => e.setExplicit key value
  | .layer entries => (e.layer entries).1

/-- The environment after edits in turn. -/
def editAll (e : Environment) (edits : List Edit) : Environment :=
  edits.foldl edit e

theorem edit_eq (e : Environment) (x : Edit) : e.edit x = e.insertAll x.offers := by
  cases x with
  | set v => rfl
  | setExplicit key value => rfl
  | layer entries => exact e.layer_fst entries

theorem editAll_eq (e : Environment) (edits : List Edit) :
    e.editAll edits = e.insertAll (edits.flatMap Edit.offers) := by
  induction edits generalizing e with
  | nil => rfl
  | cons x edits ih =>
    rw [List.flatMap_cons, insertAll_append, ← edit_eq, ← ih]
    rfl

theorem reached_eq {start : Start} {initial : List Variable}
    (h : start.environment = empty.insertAll initial) (edits : List Edit) :
    start.environment.editAll edits =
      empty.insertAll (initial ++ edits.flatMap Edit.offers) := by
  rw [editAll_eq, h, insertAll_append]

/-! ## List and index -/

/-- The index keeps one pair for each variable, of its key and its place. -/
theorem index_perm_insert {e : Environment} (h : e.index.Perm e.keys.zipIdx) (v : Variable) :
    (e.insert v).1.index.Perm (e.insert v).1.keys.zipIdx := by
  cases hc : e.contains v.key with
  | true => rwa [insert_of_contains hc]
  | false =>
    have hindex : (e.insert v).1.index = (v.key, e.toList.length) :: e.index := by
      simp only [insert, hc, Bool.false_eq_true, ↓reduceDIte]
    have hkeys : (e.insert v).1.keys = e.keys ++ [v.key] := by
      rw [keys, toList_insert hc, List.map_append]
      rfl
    have hplace : e.toList.length = e.keys.length := (List.length_map _).symm
    -- The pair comes in at the front of the index and the variable at the end of the list.
    rw [hindex, hkeys, List.zipIdx_append, hplace]
    refine (h.cons _).trans ?_
    rw [Nat.zero_add]
    exact (List.perm_append_singleton _ _).symm

theorem index_perm_insertAll {e : Environment} (h : e.index.Perm e.keys.zipIdx)
    (offers : List Variable) :
    (e.insertAll offers).index.Perm (e.insertAll offers).keys.zipIdx := by
  induction offers generalizing e with
  | nil => exact h
  | cons v offers ih => exact ih (index_perm_insert h v)

/-- What stands in an environment stays where it is when variables come in behind it. -/
theorem index?_of_prefix {e e' : Environment} (h : e.toList <+: e'.toList) {key : String} {i : Nat}
    (hi : e.index? key = some i) : e'.index? key = some i := by
  rw [index?_eq_some_iff] at hi ⊢
  obtain ⟨added, hlist⟩ := h
  obtain ⟨hlt, -⟩ := List.getElem?_eq_some_iff.mp hi
  rw [keys, ← hlist, List.map_append]
  exact (List.getElem?_append_left hlt).trans hi

/-! ## What is found -/

/-- Looking up a key finds what it was set to before, or the first variable of the key on offer. -/
theorem get?_insertAll (e : Environment) (offers : List Variable) (key : String) :
    (e.insertAll offers).get? key = (e.get? key).or (offers.find? (·.key == key)) := by
  induction offers generalizing e with
  | nil => rw [List.find?_nil, Option.or_none]; rfl
  | cons v offers ih =>
    have hrest : (e.insertAll (v :: offers)).get? key =
        ((e.insert v).1.get? key).or (offers.find? (·.key == key)) := ih (e.insert v).1
    rw [hrest, get?_insert, Option.or_assoc, List.find?_cons]
    by_cases hk : v.key = key
    · rw [if_pos hk, beq_iff_eq.mpr hk, Option.some_or]
    · rw [if_neg hk, beq_false_of_ne hk, Option.none_or]

theorem get?_empty (key : String) : empty.get? key = none := rfl

theorem contains_insertAll_empty {offers : List Variable} {key : String} :
    (empty.insertAll offers).contains key = true ↔ ∃ u ∈ offers, u.key = key := by
  rw [← isSome_get?, get?_insertAll, get?_empty, Option.none_or, List.find?_isSome]
  simp only [beq_iff_eq]

theorem size_insertAll_empty (offers : List Variable) :
    (empty.insertAll offers).size = (offers.map Variable.key).toFinset.card := by
  have hkeys : (empty.insertAll offers).keys.toFinset = (offers.map Variable.key).toFinset := by
    ext key
    rw [List.mem_toFinset, List.mem_toFinset, ← contains_iff, contains_insertAll_empty,
      List.mem_map]
  rw [← hkeys, List.toFinset_card_of_nodup (keys_nodup _), keys, List.length_map]
  rfl

/-- **What edits come to.** However an environment was started and edited, its keys are distinct,
its index has exactly these keys, each with its place, and a key is found exactly if it is there:
the variable found is the first of that key on offer, those of the start included. There are as many
variables as different keys on offer, in the order of their first offers. To set a variable and to
layer entries say what was added, and no edit changes, moves or removes what is there. -/
theorem edits_keep_first_offers (start : Start) (edits : List Edit) :
    ∃ initial, (∀ other, start.Offers other ↔ other = initial) ∧
      let e := start.environment.editAll edits
      let offers := initial ++ edits.flatMap Edit.offers
      e.keys.Nodup ∧ e.index.Perm e.keys.zipIdx ∧
        (∀ key i, e.index? key = some i ↔ e.keys[i]? = some key) ∧
        (∀ key, (e.get? key).isSome = e.contains key ∧
          e.get? key = offers.find? (·.key == key)) ∧
        e.size = (offers.map Variable.key).toFinset.card ∧
        empty.TakesOn offers e.toList ∧
        (∀ v, ((e.insert v).2 = true ↔ ∀ u ∈ offers, u.key ≠ v.key) ∧
          (e.insert v).1.toList = e.toList ++ if (e.insert v).2 then [v] else []) ∧
        (∀ entries, ∃ added, (e.layer entries).1.toList = e.toList ++ added ∧
          (e.layer entries).2 = added.length ∧
          e.TakesOn (entries.filterMap Entry.variable?) added) ∧
        ∀ x : Edit, e.toList <+: (e.edit x).toList ∧
          ∀ key i, e.index? key = some i → (e.edit x).index? key = some i := by
  obtain ⟨initial, hinitial, hstart⟩ := start.exists_offers
  refine ⟨initial, hinitial, ?_⟩
  intro e offers
  have hreached : e = empty.insertAll offers := reached_eq hstart edits
  refine ⟨e.keys_nodup, ?_, fun key i => index?_eq_some_iff, fun key => ⟨e.isSome_get? key, ?_⟩, ?_,
    ?_, fun v => ⟨?_, ?_⟩, e.takesOn_layer, fun x => ?_⟩
  · rw [hreached]
    exact index_perm_insertAll .nil offers
  · rw [hreached, get?_insertAll, get?_empty, Option.none_or]
  · rw [hreached, size_insertAll_empty]
  · obtain ⟨added, hlist, htakes⟩ := empty.takesOn_insertAll offers
    have hadded : e.toList = added := by rw [hreached, hlist]; rfl
    rwa [hadded]
  · rw [insert_added, Bool.not_eq_true', Bool.eq_false_iff, Ne, hreached, contains_insertAll_empty]
    simp only [not_exists, not_and, Ne]
  · rw [insert_added]
    cases hc : e.contains v.key with
    | true => rw [insert_of_contains hc]; exact (List.append_nil _).symm
    | false => exact toList_insert hc
  · obtain ⟨added, hlist, -⟩ := e.takesOn_insertAll x.offers
    have hkept : e.toList <+: (e.edit x).toList := ⟨added, by rw [edit_eq, hlist]⟩
    exact ⟨hkept, fun key i => index?_of_prefix hkept⟩

/-- A process that has a key twice, and one with a value that is no text: the first value stays
whatever is set later, and the other key is free. -/
theorem edits_keep_first_offers_process :
    let start := Start.ofProcess
      [(Text.bytes "PORT", Text.bytes "8080"), (Text.bytes "HOST", [0xFF]),
        (Text.bytes "PORT", Text.bytes "9090")]
    let e := start.environment.editAll
      [.setExplicit "PORT" "1", .set ⟨"HOST", "localhost", .descriptor⟩]
    start.Offers [⟨"PORT", "8080", .process⟩, ⟨"PORT", "9090", .process⟩] ∧
      e.get? "PORT" = some ⟨"PORT", "8080", .process⟩ ∧
      e.get? "HOST" = some ⟨"HOST", "localhost", .descriptor⟩ ∧ e.size = 2 := by
  intro start e
  have hnoText : ∀ key value, (Text.bytes "HOST", [0xFF]) ≠ (Text.bytes key, Text.bytes value) := by
    intro key value hpair
    have hnone : Text.ofBytes? [0xFF] = none := by decide +kernel
    have hbytes := Text.ofBytes?_eq_some_iff.mpr (Prod.mk.inj hpair).2.symm
    cases hnone.symm.trans hbytes
  have hoffers : start.Offers [⟨"PORT", "8080", .process⟩, ⟨"PORT", "9090", .process⟩] :=
    .text _ _ (.other hnoText (.text _ _ .nil))
  obtain ⟨initial, hinitial, -, -, -, hget, hsize, -⟩ := edits_keep_first_offers start
    [.setExplicit "PORT" "1", .set ⟨"HOST", "localhost", .descriptor⟩]
  obtain rfl := (hinitial _).mp hoffers
  exact ⟨hoffers, (hget "PORT").2, (hget "HOST").2, hsize⟩

end ConfigBinding.Environment
