import ConfigBinding.Proofs.Resolution.Supply
import ConfigBinding.Proofs.Schema.Agreement

/-!
# Resolutions with optional secrets

A resolution whose secrets are optional passes over a required secret that no text wins for; in all
else it does what the strict one does. A strict resolution that does not fail is therefore the
relaxed one (`Resolver.agreeWhile_relaxed`). Where they part is at a field that `LacksSecret` says
of: the strict one ends there, and the relaxed one goes on to leaves that the other never came to.
So what it comes to is compared leaf by leaf, over all leaves (`Supply.Outcome.of_relaxed_error`,
`Supply.Outcome.lacksSecret`).
-/

set_option autoImplicit false

namespace ConfigBinding

namespace Supply

/-- The same supply for a load whose secrets are optional. -/
def relaxed (t : Supply) : Supply :=
  { t with optionalSecrets := true }

/-- A load must find a secret value for the field, and no text wins for it. -/
structure LacksSecret (t : Supply) (f : Field) : Prop where
  required : f.isRequired = true
  secret : f.isSecret = true
  unsupplied : t.text? f = none

variable {t : Supply} {x : Binding}

theorem Excuses.relaxed {f : Field} (h : t.Excuses f) : t.relaxed.Excuses f :=
  h.imp_right fun hsecret => ⟨hsecret.1, rfl⟩

theorem Accepts.relaxed (h : t.Accepts x) : t.relaxed.Accepts x := by
  have htext : t.relaxed.text? x.field = t.text? x.field := rfl
  unfold Accepts at h ⊢
  rw [htext]
  cases ht : t.text? x.field with
  | some raw => rw [ht] at h; exact h
  | none => rw [ht] at h; exact h.relaxed

/-- Where a relaxed load ends, a strict one that comes there ends with the same error. -/
theorem Breaks.of_relaxed {e : ConfigError} {l : Leaf} (h : t.relaxed.Breaks x e l) :
    t.Breaks x e l := by
  cases h with
  | missing ht hx => exact .missing ht fun hexcused => hx hexcused.relaxed
  | refused ht ha => exact .refused ht ha

theorem Breaks.unique {e₁ e₂ : ConfigError} {l₁ l₂ : Leaf} (h₁ : t.Breaks x e₁ l₁)
    (h₂ : t.Breaks x e₂ l₂) : e₁ = e₂ := by
  cases h₁ with
  | missing ht₁ _ =>
    cases h₂ with
    | missing => rfl
    | refused ht₂ _ => rw [ht₁] at ht₂; cases ht₂
  | refused ht₁ ha₁ =>
    cases h₂ with
    | missing ht₂ _ => rw [ht₁] at ht₂; cases ht₂
    | refused ht₂ ha₂ =>
      obtain rfl := Option.some.inj (ht₁.symm.trans ht₂)
      obtain rfl := Except.error.inj (ha₁.symm.trans ha₂)
      rfl

/-- What a strict load ends at, and a relaxed one does not, is a required secret. -/
theorem Breaks.lacksSecret {e : ConfigError} {l : Leaf} (h : t.Breaks x e l)
    (hrelaxed : t.relaxed.Accepts x) :
    t.LacksSecret x.field ∧ e = .missingRequired x.field.key := by
  cases h with
  | missing ht hx =>
    have hexcused : t.relaxed.Excuses x.field := by
      have htext : t.relaxed.text? x.field = none := ht
      unfold Accepts at hrelaxed
      rwa [htext] at hrelaxed
    obtain hoptional | ⟨hsecret, -⟩ := hexcused
    · exact absurd (.inl hoptional) hx
    · have hrequired : x.field.isRequired = true :=
        Bool.of_not_eq_false fun hoptional => hx (.inl hoptional)
      exact ⟨⟨hrequired, hsecret, ht⟩, rfl⟩
  | refused ht ha => exact absurd hrelaxed (not_accepts_of_breaks (.refused (t := t.relaxed) ht ha))

/-! ## Whole resolutions -/

/-- Two places of a list are the same, or one stands before the other. -/
theorem mem_or_eq_or_mem_of_append_cons_eq {α : Type*} {as bs cs ds : List α} {a c : α}
    (h : as ++ a :: bs = cs ++ c :: ds) : a ∈ cs ∨ a = c ∨ c ∈ as := by
  obtain ⟨between, rfl, hrest⟩ | ⟨between, rfl, hrest⟩ := List.append_eq_append_iff.mp h
  · cases between with
    | nil => exact .inr (.inl (List.cons.inj hrest).1)
    | cons b between =>
      obtain ⟨rfl, -⟩ := List.cons.inj hrest
      exact .inl (List.mem_append_right _ List.mem_cons_self)
  · cases between with
    | nil => exact .inr (.inl (List.cons.inj hrest).1.symm)
    | cons b between =>
      obtain ⟨rfl, -⟩ := List.cons.inj hrest
      exact .inr (.inr (List.mem_append_right _ List.mem_cons_self))

variable {bs after₁ after₂ : List Binding} {e : ConfigError}

/-- Where a relaxed resolution fails, the strict one fails with the same error, or before that at a
required secret. -/
theorem Outcome.of_relaxed_error {failure : Option ConfigError}
    (hrelaxed : t.relaxed.Outcome bs after₂ (some e)) (hstrict : t.Outcome bs after₁ failure) :
    failure = some e ∨
      ∃ done x rest l, bs = done ++ x :: rest ∧ t.relaxed.Breaks x e l ∧
        ∃ y ∈ done, t.LacksSecret y.field ∧ failure = some (.missingRequired y.field.key) := by
  obtain ⟨done, x, rest, -, l, rfl, -, haccepted, -, hbreaks⟩ := hrelaxed
  -- So the strict resolution does not come past `x`.
  have hnot : ¬ t.Accepts x := fun h => not_accepts_of_breaks hbreaks h.relaxed
  cases failure with
  | none => exact absurd (hstrict.1 x (List.mem_append_right _ List.mem_cons_self)) hnot
  | some e' =>
    obtain ⟨done', y, rest', -, l', hsplit, -, haccepted', -, hbreaks'⟩ := hstrict
    obtain hx | rfl | hy := mem_or_eq_or_mem_of_append_cons_eq hsplit
    · exact absurd (haccepted' x hx) hnot
    · exact .inl (congrArg some (hbreaks'.unique hbreaks.of_relaxed))
    · obtain ⟨hlacks, rfl⟩ := hbreaks'.lacksSecret (haccepted y hy)
      exact .inr ⟨done, x, rest, l, rfl, hbreaks, y, hy, hlacks, rfl⟩

theorem Outcome.lacksSecret (hstrict : t.Outcome bs after₁ (some e))
    (hrelaxed : t.relaxed.Outcome bs after₂ none) :
    ∃ y ∈ bs, t.LacksSecret y.field ∧ e = .missingRequired y.field.key := by
  obtain ⟨done, y, rest, -, l, rfl, -, -, -, hbreaks⟩ := hstrict
  have hy : y ∈ done ++ y :: rest := List.mem_append_right _ List.mem_cons_self
  exact ⟨y, hy, hbreaks.lacksSecret (hrelaxed.1 y hy)⟩

end Supply

namespace Resolver

/-- The same resolver with optional secrets. -/
def relaxed (r : Resolver) : Resolver :=
  { r with optionalSecrets := true }

theorem demands_relaxed {r : Resolver} {f : Field} (h : r.demands f = false) :
    r.relaxed.demands f = false :=
  (demands_eq_false_iff r.relaxed 0 f).mpr ((demands_eq_false_iff r 0 f).mp h).relaxed

theorem agreeWhile_relaxed (r : Resolver) :
    Schema.AgreeWhile (fun _ => True) (fun _ => False) r.visit r.relaxed.visit := by
  intro f l s _ hfailure
  refine ⟨?_, trivial⟩
  have hprobe : s.probe.resolve r.relaxed.platform f r.relaxed.environment =
      s.probe.resolve r.platform f r.environment := rfl
  unfold visit at hfailure ⊢
  rw [hprobe]
  generalize s.probe.resolve r.platform f r.environment = probed at hfailure ⊢
  obtain ⟨resolved, probe⟩ := probed
  cases resolved with
  | some resolved => rfl
  | none =>
    -- Only here can the two differ, and only if the strict visit fails.
    have hd : r.demands f = false := by
      cases hd : r.demands f with
      | false => rfl
      | true => exact (hfailure (.missingRequired f.key) (by simp [hd])).elim
    simp only [hd, demands_relaxed hd]

end Resolver

end ConfigBinding
