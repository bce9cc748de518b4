import ConfigBinding.Proofs.Environment.Agreement
import ConfigBinding.Proofs.Resolution.Supply

/-!
# Two resolutions that differ in hidden values

Two passes over the same bindings, against environments that differ in the values of hidden keys
only and on the same platform. Which tier supplies a field is the same in both
(`Field.resolve_sameExcept`), so as long as neither fails they report the same events, and the
leaves they come to are the same unless their key is hidden (`Resolver.pass_sameExcept`).
-/

set_option autoImplicit false

namespace ConfigBinding

/-- The bindings have the same field, and the same leaf unless the field's key is hidden. -/
structure Binding.SameExcept (hidden : String → Prop) (x y : Binding) : Prop where
  field : x.field = y.field
  leaf : ¬ hidden x.field.key → x.leaf = y.leaf

/-- The resolved values come from the same tier, and are the same unless the key is hidden. -/
structure Resolved.SameExcept (hidden : String → Prop) (key : String) (r s : Resolved) : Prop where
  source : r.source = s.source
  value : ¬ hidden key → r.value = s.value

variable {hidden : String → Prop}

/-- Both environments supply a field from the same tier. -/
theorem Field.resolve_sameExcept {e₁ e₂ : Environment} (h : Environment.SameExcept hidden e₁ e₂)
    (f : Field) (onPlatform : Bool) :
    Option.Rel (Resolved.SameExcept hidden f.key) (f.resolve e₁ onPlatform)
      (f.resolve e₂ onPlatform) := by
  have hget := h.get? f.key
  have hkey : ∀ v, e₁.get? f.key = some v → v.key = f.key := fun v => Environment.key_of_get?
  unfold Field.resolve Field.candidate
  generalize e₁.get? f.key = v₁, e₂.get? f.key = v₂ at hget hkey
  cases hget with
  | @some u v huv =>
    refine .some ⟨by rw [huv.origin], fun hn => huv.value ?_⟩
    rwa [hkey u rfl]
  | none =>
    -- Past the environment, only tags and the platform are looked at.
    cases f.default? with
    | some text => exact .some ⟨rfl, fun _ => rfl⟩
    | none =>
      cases f.onPlatform? with
      | none => exact .none
      | some text =>
        cases onPlatform with
        | true => exact .some ⟨rfl, fun _ => rfl⟩
        | false => exact .none

/-- Two steps without a failure add the same events and come to the same leaf, unless its key is
hidden. -/
theorem Supply.Step.sameExcept {t₁ t₂ : Supply} {f : Field} {l m₁ m₂ : Leaf}
    {events₁ events₂ : List Event}
    (h : Environment.SameExcept hidden t₁.environment t₂.environment)
    (hp : t₁.onPlatform = t₂.onPlatform) (h₁ : t₁.Step f l m₁ events₁ none)
    (h₂ : t₂.Step f l m₂ events₂ none) :
    events₁ = events₂ ∧ Binding.SameExcept hidden ⟨f, m₁⟩ ⟨f, m₂⟩ := by
  have hresolve := f.resolve_sameExcept h t₁.onPlatform
  rw [show f.resolve t₂.environment t₁.onPlatform = f.resolve t₂.environment t₂.onPlatform by
    rw [hp]] at hresolve
  cases h₁ with
  | excused hr₁ he₁ =>
    rw [hr₁] at hresolve
    cases h₂ with
    | excused hr₂ he₂ => exact ⟨rfl, rfl, fun _ => rfl⟩
    | assigned hr₂ ha₂ => rw [hr₂] at hresolve; cases hresolve
  | @assigned r₁ _ hr₁ ha₁ =>
    rw [hr₁] at hresolve
    cases h₂ with
    | excused hr₂ he₂ => rw [hr₂] at hresolve; cases hresolve
    | @assigned r₂ _ hr₂ ha₂ =>
      rw [hr₂] at hresolve
      cases hresolve with
      | some hrs =>
        refine ⟨by rw [hrs.source], rfl, fun hn => ?_⟩
        rw [hrs.value hn, ha₂] at ha₁
        exact (Except.ok.inj ha₁).symm

namespace Resolver

variable {r₁ r₂ : Resolver} {n : Nat} {s₁ s₂ : Resolving}

/-- Two passes over the same bindings report the same events as long as neither fails, and come to
the same leaves but for those of hidden keys. -/
theorem pass_sameExcept (h : Environment.SameExcept hidden r₁.environment r₂.environment)
    (hp : r₁.platform = r₂.platform) (hf₁ : s₁.probe.Fits r₁.platform n)
    (hf₂ : s₂.probe.Fits r₂.platform n) (he : s₁.events = s₂.events) {bs : List Binding}
    (hok₁ : (Schema.pass r₁.visit bs s₁).failure = none)
    (hok₂ : (Schema.pass r₂.visit bs s₂).failure = none) :
    (Schema.pass r₁.visit bs s₁).state.events = (Schema.pass r₂.visit bs s₂).state.events ∧
      List.Forall₂ (Binding.SameExcept hidden) (Schema.pass r₁.visit bs s₁).bindings
        (Schema.pass r₂.visit bs s₂).bindings := by
  induction bs generalizing s₁ s₂ with
  | nil => exact ⟨he, .nil⟩
  | cons b bs ih =>
    obtain ⟨events₁, hev₁, hfits₁, hstep₁⟩ := visit_step hf₁ b.field b.leaf
    obtain ⟨events₂, hev₂, hfits₂, hstep₂⟩ := visit_step hf₂ b.field b.leaf
    cases hv₁ : (r₁.visit b.field b.leaf s₁).failure with
    | some e => rw [Schema.pass_cons_some hv₁] at hok₁; cases hok₁
    | none =>
      cases hv₂ : (r₂.visit b.field b.leaf s₂).failure with
      | some e => rw [Schema.pass_cons_some hv₂] at hok₂; cases hok₂
      | none =>
        rw [Schema.pass_cons_none hv₁] at hok₁ ⊢
        rw [Schema.pass_cons_none hv₂] at hok₂ ⊢
        rw [hv₁] at hstep₁
        rw [hv₂] at hstep₂
        obtain ⟨hevents, hleaf⟩ := hstep₁.sameExcept h (congrFun hp n) hstep₂
        have hstate : (r₁.visit b.field b.leaf s₁).state.events =
            (r₂.visit b.field b.leaf s₂).state.events := by
          rw [hev₁, hev₂, he, hevents]
        obtain ⟨hrest, hleaves⟩ := ih hfits₁ hfits₂ hstate hok₁ hok₂
        exact ⟨hrest, .cons hleaf hleaves⟩

end Resolver

end ConfigBinding
