import ConfigBinding.Environment.Basic

/-!
# Look-up in layered environments

What a variable is set to stays, so looking up a key finds what the environment had before anything
was added, and only else what was added first. Main statements: `get?_insert` for one variable and
`get?_layer` for the literal values of entries.
-/

set_option autoImplicit false

namespace ConfigBinding

/-- The value that the first entry of a name with a value has. -/
def Entry.supplied? (name : String) (entries : List Entry) : Option String :=
  entries.findSome? fun entry => if entry.name = name then entry.value else none

namespace Environment

theorem isSome_get? (e : Environment) (key : String) : (e.get? key).isSome = e.contains key := by
  rw [get?_eq_find?, List.isSome_find?, Bool.eq_iff_iff, contains_iff]
  simp [keys]

theorem get?_eq_none_iff {e : Environment} {key : String} :
    e.get? key = none ↔ e.contains key = false := by
  rw [← isSome_get?, Option.isSome_eq_false_iff, Option.isNone_iff_eq_none]

/-- The variable found for a key has that key. -/
theorem key_of_get? {e : Environment} {key : String} {v : Variable} (h : e.get? key = some v) :
    v.key = key := by
  rw [get?_eq_find?] at h
  simpa using List.find?_some h

theorem get?_insert (e : Environment) (v : Variable) (key : String) :
    (e.insert v).1.get? key = (e.get? key).or (if v.key = key then some v else none) := by
  cases hc : e.contains v.key with
  | true =>
    rw [insert_of_contains hc]
    split
    · rename_i hk
      obtain ⟨u, hu⟩ := Option.isSome_iff_exists.mp (hk ▸ (isSome_get? e v.key).trans hc)
      rw [hu, Option.some_or]
    · rw [Option.or_none]
  | false =>
    simp only [get?_eq_find?, toList_insert hc, List.find?_append, List.find?_singleton, beq_iff_eq]

theorem get?_layerEntry (e : Environment) (entry : Entry) (key : String) :
    (e.layerEntry entry).1.get? key =
      (e.get? key).or ((Entry.supplied? key [entry]).map fun text => ⟨key, text, .descriptor⟩) := by
  unfold layerEntry Entry.supplied?
  cases hv : entry.value with
  | none => simp [hv]
  | some value =>
    rw [get?_insert]
    by_cases hk : entry.name = key
    · simp [hk, hv]
    · simp [hk]

/-- Layering leaves what a key is set to; a key that is not set gets the first value supplied. -/
theorem get?_layer (e : Environment) (entries : List Entry) (key : String) :
    (e.layer entries).1.get? key =
      (e.get? key).or
        ((Entry.supplied? key entries).map fun text => ⟨key, text, .descriptor⟩) := by
  induction entries generalizing e with
  | nil => simp [layer, Entry.supplied?]
  | cons entry rest ih =>
    have hsplit : Entry.supplied? key (entry :: rest) =
        (Entry.supplied? key [entry]).or (Entry.supplied? key rest) := by
      rw [Entry.supplied?, ← List.singleton_append, List.findSome?_append]; rfl
    simp only [layer]
    rw [ih, get?_layerEntry, hsplit, Option.or_assoc, Option.map_or]

end Environment

end ConfigBinding
