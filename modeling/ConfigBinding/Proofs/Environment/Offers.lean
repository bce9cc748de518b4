import ConfigBinding.Proofs.Environment.Layering
import Mathlib.Data.List.Basic

/-!
# What an environment takes on

Variables are offered to an environment one after the other: by hand, from the process, or as the
literal values of entries. Of those of a key that it lacks it takes on the first, and none of a key
that it has; so what it takes on is fixed by the offers alone, and stands in the order of these
first offers (`Environment.TakesOn`). Main statements:

* `takesOn_insertAll`: what is set is put behind what was there, and is what the environment takes
  on.
* `takesOn_layer`: the same of the literal values of entries, with the number of those that were
  set.
* `layer_filter`, `layer_eq_self`: entries without a value, or of a name that the environment has,
  make no difference.
-/

set_option autoImplicit false

namespace ConfigBinding

/-- The variable that the literal value of an entry sets. -/
def Entry.variable? (entry : Entry) : Option Variable :=
  entry.value.map fun text => ⟨entry.name, text, .descriptor⟩

namespace Environment

/-- What an environment takes on of variables that are offered to it in turn: for each key that it
lacks the first of that key, in the order of these first offers. -/
structure TakesOn (e : Environment) (offers added : List Variable) : Prop where
  mem_iff : ∀ v, v ∈ added ↔ e.contains v.key = false ∧ offers.find? (·.key == v.key) = some v
  ordered : added.Pairwise fun u v =>
    offers.findIdx (·.key == u.key) < offers.findIdx (·.key == v.key)

theorem contains_insert (e : Environment) (v : Variable) (key : String) :
    (e.insert v).1.contains key = (e.contains key || v.key == key) := by
  rw [← isSome_get?, get?_insert, ← isSome_get?, Option.isSome_or]
  by_cases hk : v.key = key <;> simp [hk]

theorem size_insert (e : Environment) (v : Variable) :
    (e.insert v).1.size = e.size + if (e.insert v).2 then 1 else 0 := by
  rw [insert_added]
  cases hc : e.contains v.key with
  | true => rw [insert_of_contains hc]; rfl
  | false => rw [size, toList_insert hc, List.length_append]; rfl

/-! ## Offers in turn -/

namespace TakesOn

variable {e : Environment} {v : Variable} {offers added : List Variable}

theorem nil (e : Environment) : e.TakesOn [] [] :=
  ⟨fun v => by simp, .nil⟩

theorem cons_of_contains (hc : e.contains v.key = true) (h : e.TakesOn offers added) :
    e.TakesOn (v :: offers) added := by
  have hne : ∀ u : Variable, e.contains u.key = false → (v.key == u.key) = false := by
    intro u hu
    rw [beq_eq_false_iff_ne]
    intro heq
    rw [heq, hu] at hc
    cases hc
  constructor
  · intro u
    rw [h.mem_iff]
    refine and_congr_right fun hu => ?_
    rw [List.find?_cons, hne u hu]
  · refine h.ordered.imp_of_mem fun {x y} hx hy hxy => ?_
    rw [List.findIdx_cons, List.findIdx_cons, hne x ((h.mem_iff x).mp hx).1,
      hne y ((h.mem_iff y).mp hy).1]
    exact Nat.succ_lt_succ hxy

theorem cons_of_not_contains (hc : e.contains v.key = false)
    (h : (e.insert v).1.TakesOn offers added) : e.TakesOn (v :: offers) (v :: added) := by
  -- What is taken on later is of other keys, because by then the environment has that of `v`.
  have hadded : ∀ u ∈ added, (v.key == u.key) = false := by
    intro u hu
    have hlacks := ((h.mem_iff u).mp hu).1
    rw [contains_insert, Bool.or_eq_false_iff] at hlacks
    exact hlacks.2
  constructor
  · intro u
    rw [List.mem_cons, h.mem_iff, contains_insert, List.find?_cons, Bool.or_eq_false_iff]
    cases hk : v.key == u.key with
    | true =>
      have hkey : v.key = u.key := eq_of_beq hk
      simp only [Bool.true_eq_false, and_false, false_and, or_false, Option.some.injEq]
      exact ⟨fun heq => ⟨hkey ▸ hc, heq.symm⟩, fun heq => heq.2.symm⟩
    | false =>
      have hne : u ≠ v := by
        rintro rfl
        simp at hk
      simp only [hne, false_or, and_true]
  · refine List.pairwise_cons.mpr ⟨fun u hu => ?_, h.ordered.imp_of_mem fun {x y} hx hy hxy => ?_⟩
    · rw [List.findIdx_cons, List.findIdx_cons, hadded u hu, beq_self_eq_true]
      exact Nat.succ_pos _
    · rw [List.findIdx_cons, List.findIdx_cons, hadded x hx, hadded y hy]
      exact Nat.succ_lt_succ hxy

end TakesOn

/-- What is set of variables in turn is put behind what was there, and is what the environment takes
on of them. -/
theorem takesOn_insertAll (e : Environment) (offers : List Variable) :
    ∃ added, (e.insertAll offers).toList = e.toList ++ added ∧ e.TakesOn offers added := by
  -- The environment is general: what becomes of later offers hangs on what was taken on before.
  induction offers generalizing e with
  | nil => exact ⟨[], (List.append_nil _).symm, .nil e⟩
  | cons v offers ih =>
    obtain ⟨added, hlist, htakes⟩ := ih (e.insert v).1
    cases hc : e.contains v.key with
    | true =>
      rw [insert_of_contains hc] at hlist htakes
      refine ⟨added, ?_, htakes.cons_of_contains hc⟩
      rw [← hlist, insertAll, List.foldl_cons, insert_of_contains hc]
      rfl
    | false =>
      rw [toList_insert hc, List.append_assoc] at hlist
      exact ⟨v :: added, hlist, htakes.cons_of_not_contains hc⟩

theorem insertAll_append (e : Environment) (offers later : List Variable) :
    e.insertAll (offers ++ later) = (e.insertAll offers).insertAll later :=
  List.foldl_append

/-! ## The literal values of entries -/

/-- To layer entries is to offer the variables that their literal values set. -/
theorem layer_fst (e : Environment) (entries : List Entry) :
    (e.layer entries).1 = e.insertAll (entries.filterMap Entry.variable?) := by
  induction entries generalizing e with
  | nil => rfl
  | cons entry rest ih =>
    have hrest : (e.layer (entry :: rest)).1 =
        (e.layerEntry entry).1.insertAll (rest.filterMap Entry.variable?) :=
      ih (e.layerEntry entry).1
    rw [hrest, List.filterMap_cons, layerEntry, Entry.variable?]
    cases entry.value <;> rfl

theorem size_layer (e : Environment) (entries : List Entry) :
    (e.layer entries).1.size = e.size + (e.layer entries).2 := by
  induction entries generalizing e with
  | nil => rfl
  | cons entry rest ih =>
    have hentry : (e.layerEntry entry).1.size =
        e.size + if (e.layerEntry entry).2 then 1 else 0 := by
      unfold layerEntry
      cases entry.value with
      | none => rfl
      | some text => exact size_insert e _
    have hrest := ih (e.layerEntry entry).1
    rw [hentry] at hrest
    simp only [layer]
    omega

/-- What is set of the literal values of entries is put behind what was there, is what the
environment takes on of them, and is counted. -/
theorem takesOn_layer (e : Environment) (entries : List Entry) :
    ∃ added, (e.layer entries).1.toList = e.toList ++ added ∧
      (e.layer entries).2 = added.length ∧
      e.TakesOn (entries.filterMap Entry.variable?) added := by
  obtain ⟨added, hlist, htakes⟩ := takesOn_insertAll e (entries.filterMap Entry.variable?)
  rw [← layer_fst] at hlist
  refine ⟨added, hlist, ?_, htakes⟩
  have hsize := size_layer e entries
  rw [size, hlist, List.length_append, size] at hsize
  omega

/-- Entries without a value or of a name that the environment has can be left out. -/
theorem layer_filter {p : Entry → Bool} {e : Environment} {entries : List Entry}
    (hp : ∀ entry ∈ entries, p entry = false →
      entry.value = none ∨ e.contains entry.name = true) :
    e.layer (entries.filter p) = e.layer entries := by
  induction entries generalizing e with
  | nil => rfl
  | cons entry rest ih =>
    obtain ⟨hentry, hrest⟩ := List.forall_mem_cons.mp hp
    cases hpe : p entry with
    | true =>
      have hlater : ∀ x ∈ rest, p x = false →
          x.value = none ∨ (e.layerEntry entry).1.contains x.name = true := by
        intro x hx hpx
        refine (hrest x hx hpx).imp_right fun hc => ?_
        unfold layerEntry
        split
        · rw [contains_insert, hc, Bool.true_or]
        · exact hc
      rw [List.filter_cons_of_pos hpe]
      simp only [layer, ih hlater]
    | false =>
      -- The entry that is left out sets nothing.
      have hskip : e.layerEntry entry = (e, false) := by
        unfold layerEntry
        obtain hnone | hc := hentry hpe
        · rw [hnone]
        · split
          · exact insert_of_contains hc
          · rfl
      rw [List.filter_cons_of_neg (by rw [hpe]; decide), ih hrest]
      simp only [layer, hskip, Bool.false_eq_true, ↓reduceIte, Nat.zero_add]

theorem layer_eq_self {e : Environment} {entries : List Entry}
    (h : ∀ entry ∈ entries, entry.value = none ∨ e.contains entry.name = true) :
    e.layer entries = (e, 0) := by
  have hfilter := layer_filter (p := fun _ => false) fun entry hentry _ => h entry hentry
  rw [← hfilter, List.filter_false]
  rfl

/-- An environment has a key after entries were layered if it had it before, or an entry of that
name has a value. -/
theorem contains_layer_iff {e : Environment} {entries : List Entry} {key : String} :
    (e.layer entries).1.contains key = true ↔
      e.contains key = true ∨ ∃ entry ∈ entries, entry.name = key ∧ entry.value ≠ none := by
  rw [← isSome_get?, get?_layer, Option.isSome_or, isSome_get?, Bool.or_eq_true, Option.isSome_map,
    Entry.supplied?, List.findSome?_isSome_iff]
  refine or_congr_right (exists_congr fun entry => and_congr_right fun _ => ?_)
  by_cases hname : entry.name = key <;> simp [hname, Option.isSome_iff_ne_none]

end Environment

end ConfigBinding
