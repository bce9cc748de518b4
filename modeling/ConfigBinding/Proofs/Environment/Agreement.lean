import ConfigBinding.Proofs.Environment.Layering
import Mathlib.Data.List.Forall2

/-!
# Environments that differ in hidden values

`SameExcept hidden e₁ e₂`: the environments have the same keys in the same order and with the same
origins, and the same values but for the keys that are `hidden`. Which keys there are is then the
same, so setting variables and layering entries goes the same way in both (`SameExcept.layer`), and
looking up a key finds variables that differ at most in a hidden value (`SameExcept.get?`).
-/

set_option autoImplicit false

namespace ConfigBinding

/-- The variables are the same, but for the value if their key is hidden. -/
structure Variable.SameExcept (hidden : String → Prop) (u v : Variable) : Prop where
  key : u.key = v.key
  origin : u.origin = v.origin
  value : ¬ hidden u.key → u.value = v.value

theorem Variable.SameExcept.refl (hidden : String → Prop) (v : Variable) :
    Variable.SameExcept hidden v v :=
  ⟨rfl, rfl, fun _ => rfl⟩

namespace Environment

/-- The environments are the same, but for the values of hidden keys. -/
def SameExcept (hidden : String → Prop) (e₁ e₂ : Environment) : Prop :=
  List.Forall₂ (Variable.SameExcept hidden) e₁.toList e₂.toList

namespace SameExcept

variable {hidden : String → Prop} {e₁ e₂ : Environment}

theorem keys (h : SameExcept hidden e₁ e₂) : e₁.keys = e₂.keys := by
  have hkeys : List.Forall₂ (· = ·) e₁.keys e₂.keys := by
    rw [Environment.keys, Environment.keys, List.forall₂_map_left_iff, List.forall₂_map_right_iff]
    exact h.imp fun _ _ huv => huv.key
  rwa [List.forall₂_eq_eq_eq] at hkeys

theorem contains (h : SameExcept hidden e₁ e₂) (key : String) :
    e₁.contains key = e₂.contains key := by
  rw [Bool.eq_iff_iff, contains_iff, contains_iff, h.keys]

/-- A key is found in both or in neither. -/
theorem get? (h : SameExcept hidden e₁ e₂) (key : String) :
    Option.Rel (Variable.SameExcept hidden) (e₁.get? key) (e₂.get? key) := by
  rw [get?_eq_find?, get?_eq_find?]
  unfold SameExcept at h
  generalize e₁.toList = us, e₂.toList = vs at h ⊢
  induction h with
  | nil => exact .none
  | @cons u v us vs huv _ ih =>
    rw [List.find?_cons, List.find?_cons, ← huv.key]
    cases u.key == key with
    | true => exact .some huv
    | false => exact ih

theorem insert (h : SameExcept hidden e₁ e₂) (v : Variable) :
    SameExcept hidden (e₁.insert v).1 (e₂.insert v).1 ∧ (e₁.insert v).2 = (e₂.insert v).2 := by
  refine ⟨?_, by rw [insert_added, insert_added, h.contains]⟩
  cases hc : e₁.contains v.key with
  | true => rwa [insert_of_contains hc, insert_of_contains (h.contains v.key ▸ hc)]
  | false =>
    rw [SameExcept, toList_insert hc, toList_insert (h.contains v.key ▸ hc)]
    exact List.rel_append h (.cons (Variable.SameExcept.refl hidden v) .nil)

theorem layerEntry (h : SameExcept hidden e₁ e₂) (entry : Entry) :
    SameExcept hidden (e₁.layerEntry entry).1 (e₂.layerEntry entry).1 ∧
      (e₁.layerEntry entry).2 = (e₂.layerEntry entry).2 := by
  unfold Environment.layerEntry
  cases entry.value with
  | none => exact ⟨h, rfl⟩
  | some value => exact h.insert _

/-- The same entries are layered under both, and the same number of them is set. -/
theorem layer (h : SameExcept hidden e₁ e₂) (entries : List Entry) :
    SameExcept hidden (e₁.layer entries).1 (e₂.layer entries).1 ∧
      (e₁.layer entries).2 = (e₂.layer entries).2 := by
  induction entries generalizing e₁ e₂ with
  | nil => exact ⟨h, rfl⟩
  | cons entry rest ih =>
    obtain ⟨hentry, hadded⟩ := h.layerEntry entry
    obtain ⟨hrest, hcount⟩ := ih hentry
    exact ⟨hrest, by simp only [Environment.layer, hadded, hcount]⟩

end SameExcept

end Environment

end ConfigBinding
