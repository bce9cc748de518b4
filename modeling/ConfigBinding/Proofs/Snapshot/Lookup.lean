import ConfigBinding.Snapshot
import Mathlib.Data.List.Nodup

/-!
# Looking up shown values

A snapshot is looked up in two steps: the first group of the name, then the first value of the key
in it. So a value is found if it is the first of its key in the first group of its name
(`get?_eq_some_iff`), and nothing is found if that group lacks the key or there is none
(`get?_eq_none_iff`).
-/

set_option autoImplicit false

namespace ConfigBinding

/-- Where entries are distinct, an entry does not stand before its place. -/
theorem not_mem_take_of_nodup {l : List String} (h : l.Nodup) {i : Nat} {a : String}
    (hi : l[i]? = some a) : a ∉ l.take i := by
  obtain ⟨hlt, hget⟩ := List.getElem?_eq_some_iff.mp hi
  rw [← List.take_append_drop i l, ← List.getElem_cons_drop hlt, hget] at h
  exact fun hmem => (List.nodup_append.mp h).2.2 a hmem a List.mem_cons_self rfl

namespace Snapshot

/-- The names of the groups, each with its keys. -/
def keys (s : Snapshot) : List (String × List String) :=
  s.groups.map fun g => (g.name, g.values.map Prod.fst)

section
variable {s : Snapshot} {name key text : String}

/-- The first group of a name stands where no earlier group has it. -/
theorem find?_name_eq_some_iff {groups : List GroupSnapshot} {g : GroupSnapshot} :
    groups.find? (·.name == name) = some g ↔
      ∃ i, groups[i]? = some g ∧ g.name = name ∧
        name ∉ (groups.map GroupSnapshot.name).take i := by
  rw [List.find?_eq_some_iff_append]
  constructor
  · rintro ⟨hname, before, after, rfl, hbefore⟩
    refine ⟨before.length, by simp, by simpa using hname, ?_⟩
    rw [List.map_append, List.take_left' (List.length_map _)]
    intro hmem
    obtain ⟨h, hh, hsame⟩ := List.mem_map.mp hmem
    simpa [hsame] using hbefore h hh
  · rintro ⟨i, hi, hname, hfirst⟩
    obtain ⟨hlt, hget⟩ := List.getElem?_eq_some_iff.mp hi
    refine ⟨by simpa using hname, groups.take i, groups.drop (i + 1), ?_, fun h hh => ?_⟩
    · rw [← hget, List.getElem_cons_drop, List.take_append_drop]
    · rw [← List.map_take] at hfirst
      have hne : h.name ≠ name := fun hsame => hfirst (hsame ▸ List.mem_map_of_mem hh)
      simpa using hne

/-- A look-up finds what the first group of the name has for the key. -/
theorem get?_eq_some_iff :
    s.get? name key = some text ↔
      ∃ i g, s.groups[i]? = some g ∧ g.name = name ∧
        name ∉ (s.groups.map GroupSnapshot.name).take i ∧ g.values.lookup key = some text := by
  unfold get?
  constructor
  · intro h
    split at h
    case h_1 g hfound =>
      obtain ⟨i, hi, hname, hfirst⟩ := find?_name_eq_some_iff.mp hfound
      exact ⟨i, g, hi, hname, hfirst, h⟩
    case h_2 => cases h
  · rintro ⟨i, g, hi, hname, hfirst, hvalue⟩
    rw [find?_name_eq_some_iff.mpr ⟨i, hi, hname, hfirst⟩]
    exact hvalue

/-- A look-up finds nothing exactly if the first group of the name, if there is one, lacks the
key. -/
theorem get?_eq_none_iff :
    s.get? name key = none ↔
      ∀ i keys, s.keys[i]? = some (name, keys) → name ∉ (s.keys.map Prod.fst).take i →
        key ∉ keys := by
  have hnames : s.keys.map Prod.fst = s.groups.map GroupSnapshot.name := by
    rw [keys, List.map_map]
    rfl
  rw [hnames]
  constructor
  · intro hnone i keys hi hfirst hkey
    rw [Snapshot.keys, List.getElem?_map] at hi
    obtain ⟨g, hg, hsame⟩ := Option.map_eq_some_iff.mp hi
    obtain ⟨rfl, rfl⟩ := Prod.mk.inj hsame
    obtain ⟨v, hv, rfl⟩ := List.mem_map.mp hkey
    have hfound : (g.values.lookup v.1).isSome := List.lookup_isSome_iff.mpr ⟨v, hv, BEq.rfl⟩
    obtain ⟨text, htext⟩ := Option.isSome_iff_exists.mp hfound
    rw [get?_eq_some_iff.mpr ⟨i, g, hg, rfl, hfirst, htext⟩] at hnone
    cases hnone
  · intro h
    refine Option.eq_none_iff_forall_ne_some.mpr fun text hfound => ?_
    obtain ⟨i, g, hg, rfl, hfirst, htext⟩ := get?_eq_some_iff.mp hfound
    obtain ⟨before, after, hvalues, -⟩ := List.lookup_eq_some_iff.mp htext
    have hi : s.keys[i]? = some (g.name, g.values.map Prod.fst) := by
      rw [keys, List.getElem?_map, hg]
      rfl
    refine h i _ hi hfirst ?_
    rw [hvalues]
    simp

/-- Where keys are distinct, the value at a place is what is found for its key. -/
theorem lookup_of_getElem? {values : List (String × String)} (hkeys : (values.map Prod.fst).Nodup)
    {j : Nat} (hj : values[j]? = some (key, text)) : values.lookup key = some text := by
  obtain ⟨hlt, hget⟩ := List.getElem?_eq_some_iff.mp hj
  refine List.lookup_eq_some_iff.mpr ⟨values.take j, values.drop (j + 1), ?_, fun v hv => ?_⟩
  · rw [← hget, List.getElem_cons_drop, List.take_append_drop]
  · have hfirst : key ∉ (values.map Prod.fst).take j :=
      not_mem_take_of_nodup hkeys (by rw [List.getElem?_map, hj]; rfl)
    rw [← List.map_take] at hfirst
    have hne : key ≠ v.1 := fun hsame => hfirst (hsame ▸ List.mem_map_of_mem hv)
    simpa using hne

end

end Snapshot

end ConfigBinding
