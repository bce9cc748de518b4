import ConfigBinding.Proofs.Resolution.Supply

/-!
# What a resolution reports

The reports of a resolution can be computed beforehand, from the fields and the supply alone
(`Supply.reports`): one for each field that a text wins for, in order. `Resolver.pass_reports` says
that these are the reports of a pass, up to the leaf that breaks it, and which leaves they are about
(`Supply.Account`).
-/

set_option autoImplicit false

namespace ConfigBinding

namespace Supply

variable (t : Supply)

/-- The report of a field that a load gives a value: its key, and the tier that the value is
resolved from. -/
def report? (f : Field) : Option Event :=
  (f.resolve t.environment t.onPlatform).map fun r => .valueResolved f.key r.source

/-- The reports of fields, in order. -/
def reports (fields : List Field) : List Event :=
  fields.filterMap t.report?

/-- What a load makes of bindings and reports of them: every leaf is settled and reported if it is
given a value, or those before the first that breaks are, and that leaf is not reported. -/
def Account (before after : List Binding) (events : List Event) : Option ConfigError → Prop
  | none => List.Forall₂ t.Settles before after ∧ events = t.reports (before.map Binding.field)
  | some e => ∃ done x rest settled l,
      before = done ++ x :: rest ∧ after = settled ++ ⟨x.field, l⟩ :: rest ∧
        List.Forall₂ t.Settles done settled ∧ t.Breaks x e l ∧
        events = t.reports (done.map Binding.field)

variable {t}

/-- What is reported is that a text wins. -/
theorem report?_eq_none_iff {f : Field} : t.report? f = none ↔ t.text? f = none := by
  rw [← Field.resolve_value f t, report?, Option.map_eq_none_iff, Option.map_eq_none_iff]

theorem reports_cons (f : Field) (fields : List Field) :
    t.reports (f :: fields) = (t.report? f).toList ++ t.reports fields := by
  unfold reports
  rw [List.filterMap_cons]
  cases t.report? f <;> rfl

theorem Account.cons {x y : Binding} {bs cs : List Binding} {events : List Event}
    {failure : Option ConfigError} (hy : t.Settles x y) (h : t.Account bs cs events failure) :
    t.Account (x :: bs) (y :: cs) ((t.report? x.field).toList ++ events) failure := by
  cases failure with
  | none =>
    obtain ⟨hsettled, rfl⟩ := h
    exact ⟨.cons hy hsettled, (reports_cons _ _).symm⟩
  | some e =>
    obtain ⟨done, z, rest, settled, l, rfl, rfl, hsettled, hbreaks, rfl⟩ := h
    exact ⟨x :: done, z, rest, y :: settled, l, rfl, rfl, .cons hy hsettled, hbreaks,
      (reports_cons _ _).symm⟩

namespace Step

variable {f : Field} {l m : Leaf} {events : List Event}

/-- A visit that does not fail reports its field if a text wins for it. -/
theorem events_eq (h : t.Step f l m events none) : events = (t.report? f).toList := by
  unfold report?
  cases h with
  | excused hr => rw [hr]; rfl
  | assigned hr => rw [hr]; rfl

theorem events_eq_nil {e : ConfigError} (h : t.Step f l m events (some e)) : events = [] := by
  cases h <;> rfl

end Step

end Supply

/-- A pass over bindings reports what its supply says of the leaves that it settles. -/
theorem Resolver.pass_reports {r : Resolver} {n : Nat} {s : Resolving}
    (h : s.probe.Fits r.platform n) (bs : List Binding) :
    ∃ events, (Schema.pass r.visit bs s).state.events = s.events ++ events ∧
      (r.supply n).Account bs (Schema.pass r.visit bs s).bindings events
        (Schema.pass r.visit bs s).failure := by
  induction bs generalizing s with
  | nil => exact ⟨[], (List.append_nil _).symm, .nil, rfl⟩
  | cons b bs ih =>
    obtain ⟨reported, hevents, hfits, hstep⟩ := visit_step h b.field b.leaf
    cases hv : (r.visit b.field b.leaf s).failure with
    | some e =>
      rw [hv] at hstep
      rw [Schema.pass_cons_some hv]
      obtain rfl := hstep.events_eq_nil
      exact ⟨[], hevents, [], b, bs, [], _, rfl, rfl, .nil, hstep.breaks, rfl⟩
    | none =>
      rw [hv] at hstep
      rw [Schema.pass_cons_none hv]
      obtain rfl := hstep.events_eq
      obtain ⟨events, hrest, haccount⟩ := ih hfits
      refine ⟨((r.supply n).report? b.field).toList ++ events, ?_, haccount.cons hstep.settles.2⟩
      rw [hrest, hevents, List.append_assoc]

end ConfigBinding
