import Mathlib.Data.List.Basic
import ConfigBinding.Kind.Reading

/-!
# Maps as entries

A map is a list of entries, looked up by key (`valueAt?`). The two ways of putting an entry into a
map differ in the place they give it and in the spelling that stays where the key is there already,
and agree in what matters (`Puts`): the value is found at its key, and a new key adds the entry. A
map made of a list of entries thus has for each key the value of the last entry that has it
(`HasLast`), and entries with different keys are all in it (`perm_foldl`).
-/

set_option autoImplicit false

namespace ConfigBinding.Kind

open Std

section
variable {α β : Type} (cmp : α → α → Ordering)

/-- The value of the first entry with a key. -/
def valueAt? (k : α) (m : List (α × β)) : Option β :=
  (m.find? fun e => cmp k e.1 = .eq).map Prod.snd

/-- The last of some entries that has a key has a value. -/
def LastAt (k : α) (v : β) (es : List (α × β)) : Prop :=
  ∃ before e after, es = before ++ e :: after ∧ cmp k e.1 = .eq ∧ e.2 = v ∧
    ∀ d ∈ after, cmp k d.1 ≠ .eq

/-- A map has the keys of some entries, and for each of them the last value. -/
structure HasLast (es m : List (α × β)) : Prop where
  isSome_iff : ∀ k, (valueAt? cmp k m).isSome = true ↔ ∃ d ∈ es, cmp k d.1 = .eq
  eq_some_iff : ∀ k v, valueAt? cmp k m = some v ↔ LastAt cmp k v es

/-- No two entries have equal keys. -/
def Distinct (m : List (α × β)) : Prop :=
  m.Pairwise fun d e => cmp d.1 e.1 ≠ .eq

/-- The keys of the entries increase. -/
def Increasing (m : List (α × β)) : Prop :=
  m.Pairwise fun d e => cmp d.1 e.1 = .lt

/-- A way of putting an entry into a map. -/
structure Puts (put : α × β → List (α × β) → List (α × β)) : Prop where
  valueAt_put : ∀ k e m, valueAt? cmp k (put e m) = valueAt? cmp k (e :: m)
  perm_put : ∀ e m, (∀ d ∈ m, cmp e.1 d.1 ≠ .eq) → (put e m).Perm (e :: m)

end

section
variable {α β : Type} {cmp : α → α → Ordering}

@[simp] theorem valueAt?_nil (k : α) : valueAt? cmp k ([] : List (α × β)) = none := rfl

theorem valueAt?_cons (k : α) (e : α × β) (m : List (α × β)) :
    valueAt? cmp k (e :: m) = if cmp k e.1 = .eq then some e.2 else valueAt? cmp k m := by
  unfold valueAt?
  rw [List.find?_cons]
  by_cases h : cmp k e.1 = .eq <;> simp [h]

theorem valueAt?_append (k : α) (m m' : List (α × β)) :
    valueAt? cmp k (m ++ m') = (valueAt? cmp k m).or (valueAt? cmp k m') := by
  unfold valueAt?
  rw [List.find?_append]
  cases m.find? fun e => cmp k e.1 = .eq <;> rfl

theorem valueAt?_reverse_eq_some_iff {k : α} {v : β} {es : List (α × β)} :
    valueAt? cmp k es.reverse = some v ↔ LastAt cmp k v es := by
  rw [valueAt?, Option.map_eq_some_iff]
  refine ⟨fun ⟨e, hfind, hv⟩ => ?_, fun ⟨before, e, after, hsplit, hk, hv, hafter⟩ => ?_⟩
  · obtain ⟨hk, later, earlier, hsplit, hlater⟩ := List.find?_eq_some_iff_append.mp hfind
    refine ⟨earlier.reverse, e, later.reverse, ?_, of_decide_eq_true hk, hv, fun d hd => ?_⟩
    · rw [← List.reverse_reverse es, hsplit]
      simp
    · simpa using hlater d (List.mem_reverse.mp hd)
  · have hreverse : es.reverse = after.reverse ++ e :: before.reverse := by
      rw [hsplit]
      simp
    have hlater : ∀ d ∈ after.reverse, (!decide (cmp k d.1 = .eq)) = true := by
      simpa using hafter
    exact ⟨e, List.find?_eq_some_iff_append.mpr ⟨decide_eq_true hk, _, _, hreverse, hlater⟩, hv⟩

theorem hasLast_of_valueAt? {es m : List (α × β)}
    (h : ∀ k, valueAt? cmp k m = valueAt? cmp k es.reverse) : HasLast cmp es m where
  isSome_iff k := by
    rw [h, valueAt?, Option.isSome_map, List.find?_isSome]
    simp
  eq_some_iff k v := by
    rw [h, valueAt?_reverse_eq_some_iff]

/-- A map made of entries has the values of the last entries with their keys. -/
theorem valueAt?_foldl {put : α × β → List (α × β) → List (α × β)} (h : Puts cmp put) (k : α)
    (es m : List (α × β)) :
    valueAt? cmp k (es.foldl (fun m e => put e m) m) =
      (valueAt? cmp k es.reverse).or (valueAt? cmp k m) := by
  induction es generalizing m with
  | nil => rfl
  | cons e es ih =>
    have hcons : valueAt? cmp k (e :: m) = (valueAt? cmp k [e]).or (valueAt? cmp k m) :=
      valueAt?_append k [e] m
    rw [List.foldl_cons, ih, h.valueAt_put, hcons, List.reverse_cons, valueAt?_append,
      Option.or_assoc]

theorem Increasing.distinct {m : List (α × β)} (h : Increasing cmp m) : Distinct cmp m :=
  h.imp fun hlt heq => by
    rw [hlt] at heq
    cases heq

theorem key_of_mem_putEntry {e x : α × β} {m : List (α × β)} (h : x ∈ putEntry cmp e m) :
    x.1 = e.1 ∨ ∃ d ∈ m, x.1 = d.1 := by
  induction m with
  | nil =>
    obtain rfl := List.mem_singleton.mp h
    exact .inl rfl
  | cons d ds ih =>
    rw [putEntry] at h
    split at h
    · rcases List.mem_cons.mp h with rfl | h
      · exact .inr ⟨d, List.mem_cons_self, rfl⟩
      · exact .inr ⟨x, List.mem_cons_of_mem d h, rfl⟩
    · rcases List.mem_cons.mp h with rfl | h
      · exact .inr ⟨x, List.mem_cons_self, rfl⟩
      · rcases ih h with hx | ⟨y, hy, hx⟩
        · exact .inl hx
        · exact .inr ⟨y, List.mem_cons_of_mem d hy, hx⟩

theorem value_of_mem_putEntry {e x : α × β} {m : List (α × β)} (h : x ∈ putEntry cmp e m) :
    x.2 = e.2 ∨ ∃ d ∈ m, x.2 = d.2 := by
  induction m with
  | nil =>
    obtain rfl := List.mem_singleton.mp h
    exact .inl rfl
  | cons d ds ih =>
    rw [putEntry] at h
    split at h
    · rcases List.mem_cons.mp h with rfl | h
      · exact .inl rfl
      · exact .inr ⟨x, List.mem_cons_of_mem d h, rfl⟩
    · rcases List.mem_cons.mp h with rfl | h
      · exact .inr ⟨x, List.mem_cons_self, rfl⟩
      · rcases ih h with hx | ⟨y, hy, hx⟩
        · exact .inl hx
        · exact .inr ⟨y, List.mem_cons_of_mem d hy, hx⟩

theorem length_putEntry_le (e : α × β) (m : List (α × β)) :
    (putEntry cmp e m).length ≤ m.length + 1 := by
  induction m with
  | nil => exact Nat.le_refl 1
  | cons d ds ih =>
    rw [putEntry]
    split
    · exact Nat.le_succ _
    · exact Nat.succ_le_succ ih

theorem mem_putSorted {e x : α × β} {m : List (α × β)} (h : x ∈ putSorted cmp e m) :
    x = e ∨ x ∈ m := by
  induction m with
  | nil => exact .inl (List.mem_singleton.mp h)
  | cons d ds ih =>
    rw [putSorted] at h
    split at h
    · exact List.mem_cons.mp h
    · rcases List.mem_cons.mp h with hx | hx
      · exact .inl hx
      · exact .inr (List.mem_cons_of_mem d hx)
    · rcases List.mem_cons.mp h with rfl | hx
      · exact .inr List.mem_cons_self
      · exact (ih hx).imp_right (List.mem_cons_of_mem d)

theorem length_putSorted_le (e : α × β) (m : List (α × β)) :
    (putSorted cmp e m).length ≤ m.length + 1 := by
  induction m with
  | nil => exact Nat.le_refl 1
  | cons d ds ih =>
    rw [putSorted]
    split
    · exact Nat.le_refl _
    · exact Nat.le_succ _
    · exact Nat.succ_le_succ ih

variable [TransCmp cmp]

/-- An entry covers one behind it with an equal key. -/
theorem valueAt?_covered {d e : α × β} (h : cmp e.1 d.1 = .eq) (k : α) (m : List (α × β)) :
    valueAt? cmp k (e :: d :: m) = valueAt? cmp k (e :: m) := by
  rw [valueAt?_cons, valueAt?_cons, valueAt?_cons, TransCmp.congr_right h]
  split <;> rfl

/-- Entries with different keys can be exchanged. -/
theorem valueAt?_swap {d e : α × β} (h : cmp e.1 d.1 ≠ .eq) (k : α) (m : List (α × β)) :
    valueAt? cmp k (d :: e :: m) = valueAt? cmp k (e :: d :: m) := by
  rw [valueAt?_cons, valueAt?_cons, valueAt?_cons, valueAt?_cons]
  by_cases hk : cmp k e.1 = .eq
  · have hkd : cmp k d.1 ≠ .eq := fun hd => h (TransCmp.eq_trans (OrientedCmp.eq_symm hk) hd)
    simp [hk, hkd]
  · simp [hk]

theorem Distinct.perm {m m' : List (α × β)} (h : Distinct cmp m) (hperm : m.Perm m') :
    Distinct cmp m' :=
  hperm.pairwise h fun hne heq => hne (OrientedCmp.eq_symm heq)

/-- Entries with different keys are all in a map that is made of them. -/
theorem perm_foldl {put : α × β → List (α × β) → List (α × β)} (h : Puts cmp put)
    {es m : List (α × β)} (hdistinct : Distinct cmp (es ++ m)) :
    (es.foldl (fun m e => put e m) m).Perm (es ++ m) := by
  induction es generalizing m with
  | nil => exact .refl m
  | cons e es ih =>
    have hnew : ∀ d ∈ m, cmp e.1 d.1 ≠ .eq := fun d hd =>
      (List.pairwise_cons.mp hdistinct).1 d (List.mem_append_right es hd)
    have hperm : (es ++ put e m).Perm (e :: (es ++ m)) :=
      ((h.perm_put e m hnew).append_left es).trans List.perm_middle
    exact (ih (hdistinct.perm hperm.symm)).trans hperm

/-! ## Hashed maps -/

theorem puts_putEntry : Puts cmp (putEntry (β := β) cmp) where
  valueAt_put k e m := by
    induction m with
    | nil => rfl
    | cons d ds ih =>
      rw [putEntry]
      by_cases hd : cmp e.1 d.1 = .eq
      · rw [if_pos hd, valueAt?_covered hd, valueAt?_cons, valueAt?_cons, TransCmp.congr_right hd]
      · rw [if_neg hd, ← valueAt?_swap hd, valueAt?_cons, ih, valueAt?_cons k d]
  perm_put e m hnew := by
    induction m with
    | nil => exact .refl _
    | cons d ds ih =>
      obtain ⟨hd, hds⟩ := List.forall_mem_cons.mp hnew
      rw [putEntry, if_neg hd]
      exact ((ih hds).cons d).trans (.swap e d ds)

theorem Distinct.putEntry {m : List (α × β)} (h : Distinct cmp m) (e : α × β) :
    Distinct cmp (putEntry cmp e m) := by
  induction m with
  | nil => exact List.pairwise_singleton _ e
  | cons d ds ih =>
    obtain ⟨hd, hds⟩ := List.pairwise_cons.mp h
    rw [Kind.putEntry]
    split
    · exact List.pairwise_cons.mpr ⟨hd, hds⟩
    · rename_i hne
      refine List.pairwise_cons.mpr ⟨fun x hx => ?_, ih hds⟩
      rcases key_of_mem_putEntry hx with hkey | ⟨y, hy, hkey⟩
      · rw [hkey]
        exact fun heq => hne (OrientedCmp.eq_symm heq)
      · rw [hkey]
        exact hd y hy

/-- A hashed map has one entry for each key, and the last value. -/
theorem hashMapOf_spec (cmp : α → α → Ordering) [TransCmp cmp] (es : List (α × β)) :
    Distinct cmp (hashMapOf cmp es) ∧ HasLast cmp es (hashMapOf cmp es) := by
  refine ⟨?_, hasLast_of_valueAt? fun k => ?_⟩
  · exact List.foldlRecOn es _ List.Pairwise.nil fun m hm e _ => hm.putEntry e
  · rw [hashMapOf, valueAt?_foldl puts_putEntry, valueAt?_nil, Option.or_none]

theorem perm_hashMapOf {es : List (α × β)} (h : Distinct cmp es) : (hashMapOf cmp es).Perm es := by
  have hperm := perm_foldl puts_putEntry (m := []) (by rwa [List.append_nil])
  rwa [List.append_nil] at hperm

/-! ## Tree maps -/

theorem puts_putSorted : Puts cmp (putSorted (β := β) cmp) where
  valueAt_put k e m := by
    induction m with
    | nil => rfl
    | cons d ds ih =>
      rw [putSorted]
      split
      · rfl
      · rename_i hd
        rw [valueAt?_covered hd]
      · rename_i hd
        have hne : cmp e.1 d.1 ≠ .eq := by
          rw [hd]
          nofun
        rw [← valueAt?_swap hne, valueAt?_cons, ih, valueAt?_cons k d]
  perm_put e m hnew := by
    induction m with
    | nil => exact .refl _
    | cons d ds ih =>
      obtain ⟨hd, hds⟩ := List.forall_mem_cons.mp hnew
      rw [putSorted]
      split
      · exact .refl _
      · rename_i heq
        exact absurd heq hd
      · exact ((ih hds).cons d).trans (.swap e d ds)

theorem Increasing.putSorted {m : List (α × β)} (h : Increasing cmp m) (e : α × β) :
    Increasing cmp (putSorted cmp e m) := by
  induction m with
  | nil => exact List.pairwise_singleton _ e
  | cons d ds ih =>
    obtain ⟨hd, hds⟩ := List.pairwise_cons.mp h
    rw [Kind.putSorted]
    split
    · rename_i hlt
      refine List.pairwise_cons.mpr ⟨fun x hx => ?_, h⟩
      rcases List.mem_cons.mp hx with rfl | hx
      · exact hlt
      · exact TransCmp.lt_trans hlt (hd x hx)
    · rename_i heq
      refine List.pairwise_cons.mpr ⟨fun x hx => ?_, hds⟩
      rw [TransCmp.congr_left heq]
      exact hd x hx
    · rename_i hgt
      refine List.pairwise_cons.mpr ⟨fun x hx => ?_, ih hds⟩
      rcases mem_putSorted hx with rfl | hx
      · exact OrientedCmp.lt_of_gt hgt
      · exact hd x hx

/-- A tree map has increasing keys, and the last value for each. -/
theorem treeMapOf_spec (cmp : α → α → Ordering) [TransCmp cmp] (es : List (α × β)) :
    Increasing cmp (treeMapOf cmp es) ∧ HasLast cmp es (treeMapOf cmp es) := by
  refine ⟨?_, hasLast_of_valueAt? fun k => ?_⟩
  · exact List.foldlRecOn es _ List.Pairwise.nil fun m hm e _ => hm.putSorted e
  · rw [treeMapOf, valueAt?_foldl puts_putSorted, valueAt?_nil, Option.or_none]

/-- Entries with increasing keys are what a tree map makes of them in any order. -/
theorem treeMapOf_eq {es t : List (α × β)} (ht : Increasing cmp t) (hperm : es.Perm t) :
    treeMapOf cmp es = t := by
  have hdistinct : Distinct cmp es := ht.distinct.perm hperm.symm
  have hall : (treeMapOf cmp es).Perm (es ++ []) :=
    perm_foldl puts_putSorted (by rwa [List.append_nil])
  rw [List.append_nil] at hall
  refine (hall.trans hperm).eq_of_pairwise (fun d e _ _ hde hed => ?_) (treeMapOf_spec cmp es).1 ht
  rw [OrientedCmp.gt_of_lt hde] at hed
  cases hed

end

end ConfigBinding.Kind
