import ConfigBinding.Schema.Basic

/-!
# Walks by visitors that agree

A walk calls its visitor leaf by leaf, so a second visitor that does the same at every leaf makes
the same walk. Two visitors often do the same only in the states that a walk comes to, or only as
long as the first does not fail; `AgreeWhile` says both, and `walk_agree` carries it over a whole
schema.
-/

set_option autoImplicit false

namespace ConfigBinding.Schema

section
variable {σ ε : Type} {P : σ → Prop} {E : ε → Prop} {visit₁ visit₂ : Field → Leaf → σ → Visit σ ε}

/-- The second visitor does what the first does in the states `P`, and the state is then one of them
again. Visits of the first that fail other than with `E` are left out. -/
def AgreeWhile (P : σ → Prop) (E : ε → Prop) (visit₁ visit₂ : Field → Leaf → σ → Visit σ ε) :
    Prop :=
  ∀ f l s, P s → (∀ e ∈ (visit₁ f l s).failure, E e) →
    visit₂ f l s = visit₁ f l s ∧ P (visit₁ f l s).state

theorem andThen_agree {first₁ first₂ : Walk σ ε} {rest : Schema Leaf} {next₁ next₂ : σ → Walk σ ε}
    {build : Schema Leaf → Schema Leaf → Schema Leaf}
    (hfirst : (∀ e ∈ first₁.failure, E e) → first₂ = first₁ ∧ P first₁.state)
    (hnext : ∀ st, P st → (∀ e ∈ (next₁ st).failure, E e) →
      next₂ st = next₁ st ∧ P (next₁ st).state)
    (hE : ∀ e ∈ (first₁.andThen rest next₁ build).failure, E e) :
    first₂.andThen rest next₂ build = first₁.andThen rest next₁ build ∧
      P (first₁.andThen rest next₁ build).state := by
  cases hf : first₁.failure with
  | some e =>
    simp only [Walk.andThen, hf] at hE ⊢
    obtain ⟨rfl, hstate⟩ := hfirst (hf ▸ hE)
    simp only [hf]
    exact ⟨trivial, hstate⟩
  | none =>
    simp only [Walk.andThen, hf] at hE ⊢
    -- Only now is it known that the first walk fails with nothing, so that the walks agree on it.
    obtain ⟨rfl, hstate⟩ := hfirst (by simp [hf])
    obtain ⟨heq, hstate'⟩ := hnext _ hstate hE
    simp only [hf, heq]
    exact ⟨trivial, hstate'⟩

theorem walk_agree (h : AgreeWhile P E visit₁ visit₂) (scope : String) (s : Schema Leaf) {st : σ}
    (hP : P st) (hE : ∀ e ∈ (s.walk visit₁ scope st).failure, E e) :
    s.walk visit₂ scope st = s.walk visit₁ scope st ∧ P (s.walk visit₁ scope st).state := by
  induction s generalizing scope st with
  | nil => exact ⟨rfl, hP⟩
  | leaf label l rest ih =>
    have hvisit := h (fieldOf scope label l) l st hP
    cases hf : (visit₁ (fieldOf scope label l) l st).failure with
    | some e =>
      simp only [walk, hf] at hE ⊢
      obtain ⟨heq, hstate⟩ := hvisit (hf ▸ hE)
      simp only [heq, hf]
      exact ⟨trivial, hstate⟩
    | none =>
      simp only [walk, hf] at hE ⊢
      obtain ⟨heq, hstate⟩ := hvisit (by simp [hf])
      obtain ⟨hrest, hstate'⟩ := ih scope hstate hE
      simp only [heq, hf, hrest]
      exact ⟨trivial, hstate'⟩
  | nested label w inner rest ihi ihr =>
    exact andThen_agree (ihi (label.key scope) hP) (fun _ hst => ihr scope hst) hE
  | embedded w inner rest ihi ihr =>
    exact andThen_agree (ihi scope hP) (fun _ hst => ihr scope hst) hE

end

end ConfigBinding.Schema
