import ConfigBinding.Proofs.Resolution.Supply
import ConfigBinding.Proofs.Schema.Agreement
import ConfigBinding.Proofs.Schema.Tracing

/-!
# Questions about the platform

The probe after any number of visits is known from the fields that were visited: it was asked once
if one of them reaches the platform's tier, and not at all otherwise (`Probe.after`, kept by every
visit: `Resolver.agreeWhile_tracks`). Every field is resolved by the first answer, so a platform
that would answer otherwise from then on makes no difference (`Resolver.agreeWhile_platform`).
-/

set_option autoImplicit false

namespace ConfigBinding

namespace Field

/-- All that could supply a value for the field is that the program runs on the platform. -/
def ReachesPlatform (f : Field) (e : Environment) : Prop :=
  e.get? f.key = none ∧ f.default? = none ∧ f.onPlatform?.isSome

instance (f : Field) (e : Environment) : Decidable (f.ReachesPlatform e) :=
  inferInstanceAs (Decidable (_ ∧ _ ∧ _))

theorem asksPlatform_iff {f : Field} {e : Environment} :
    f.asksPlatform e = true ↔ f.ReachesPlatform e := by
  unfold asksPlatform candidate ReachesPlatform
  cases e.get? f.key with
  | some v => simp
  | none =>
    cases f.default? with
    | some text => simp
    | none => cases f.onPlatform? <;> simp

end Field

theorem Supply.text?_of_reachesPlatform {t : Supply} {f : Field}
    (h : f.ReachesPlatform t.environment) :
    t.text? f = if t.onPlatform then f.onPlatform? else none := by
  obtain ⟨hget, hdefault, -⟩ := h
  simp only [text?, hget, hdefault]

/-! ## The probe after visits -/

namespace Probe

/-- The probe after visits of fields in a load that began when the platform had been asked `n`
times. -/
def after (platform : Platform) (n : Nat) (e : Environment) (visited : List Field) : Probe :=
  if ∃ f ∈ visited, f.ReachesPlatform e then ⟨n + 1, some (platform n)⟩ else ⟨n, none⟩

variable {platform q : Platform} {n : Nat} {e : Environment} {visited : List Field}

theorem fits_after : (after platform n e visited).Fits platform n := by
  unfold after
  split
  · exact .asked
  · exact .fresh

theorem asked_after :
    (after platform n e visited).asked =
      n + if ∃ f ∈ visited, f.ReachesPlatform e then 1 else 0 := by
  unfold after
  split <;> rfl

/-- One more visit asks if its field reaches the platform and none did before. -/
theorem resolve_after (f : Field) :
    ((after platform n e visited).resolve platform f e).2 =
      after platform n e (visited ++ [f]) := by
  unfold resolve
  cases ha : f.asksPlatform e with
  | true =>
    have hreaches : ∃ g ∈ visited ++ [f], g.ReachesPlatform e :=
      ⟨f, List.mem_append_right _ List.mem_cons_self, Field.asksPlatform_iff.mp ha⟩
    simp only [↓reduceIte, fits_after.ask]
    rw [after, if_pos hreaches]
  | false =>
    have hnot : ¬ f.ReachesPlatform e := fun h => by
      rw [Field.asksPlatform_iff.mpr h] at ha
      cases ha
    have hsame :
        (∃ g ∈ visited ++ [f], g.ReachesPlatform e) ↔ ∃ g ∈ visited, g.ReachesPlatform e := by
      simp only [List.mem_append, List.mem_singleton, or_and_right, exists_or, exists_eq_left, hnot,
        or_false]
    simp only [Bool.false_eq_true, ↓reduceIte, after, hsame]

theorem Fits.of_answer {p : Probe} (h : p.Fits platform n) (hq : q n = platform n) :
    p.Fits q n := by
  cases h with
  | fresh => exact .fresh
  | asked => rw [← hq]; exact .asked

theorem Fits.resolve_congr {p : Probe} (h : p.Fits platform n) (hq : q n = platform n) (f : Field)
    (e : Environment) : p.resolve q f e = p.resolve platform f e := by
  simp only [Probe.resolve, (h.of_answer hq).ask, h.ask, hq]

end Probe

namespace Resolver

variable {r : Resolver} {n : Nat}

theorem probe_visit (f : Field) (l : Leaf) (s : Resolving) :
    (r.visit f l s).state.probe = (s.probe.resolve r.platform f r.environment).2 := by
  unfold visit
  split
  · rename_i heq; rw [heq]
  · rename_i heq
    rw [heq]
    split <;> rfl

/-- The probe is that after the visits that were noted. -/
def Tracks (r : Resolver) (n : Nat) (s : Resolving × List Field) : Prop :=
  s.1.probe = Probe.after r.platform n r.environment s.2

theorem agreeWhile_tracks (r : Resolver) (n : Nat) :
    Schema.AgreeWhile (r.Tracks n) (fun _ => True) (Schema.traced r.visit)
      (Schema.traced r.visit) := by
  intro f l s htracks _
  refine ⟨rfl, ?_⟩
  have hprobe :
      (r.visit f l s.1).state.probe = Probe.after r.platform n r.environment (s.2 ++ [f]) := by
    rw [probe_visit, htracks, Probe.resolve_after]
  exact hprobe

/-- A platform with the same answer to the first question of a load makes no difference to it. -/
theorem agreeWhile_platform {q : Platform} (hq : q n = r.platform n) :
    Schema.AgreeWhile (fun s => s.probe.Fits r.platform n) (fun _ => True) r.visit
      { r with platform := q }.visit := by
  intro f l s hfits _
  obtain ⟨events, -, hfits', -⟩ := visit_step hfits f l
  have hvisit : { r with platform := q }.visit f l s = r.visit f l s := by
    unfold visit
    rw [hfits.resolve_congr hq]
    rfl
  exact ⟨hvisit, hfits'⟩

/-- What a noted pass comes to: where it fails, that is at the field noted last. -/
theorem traced_pass_visit {s : Resolving} (h : s.probe.Fits r.platform n) (bs : List Binding) :
    let passed := Schema.pass (Schema.traced r.visit) bs (s, [])
    (passed.failure = none → passed.state.2 = bs.map Binding.field) ∧
      ∀ e, passed.failure = some e → ∃ done x rest settled l,
        bs = done ++ x :: rest ∧ passed.state.2 = done.map Binding.field ++ [x.field] ∧
          passed.bindings = settled ++ ⟨x.field, l⟩ :: rest ∧
          List.Forall₂ (r.supply n).Settles done settled ∧ (r.supply n).Breaks x e l := by
  intro passed
  refine ⟨fun hpassed => ?_, fun e hfails => ?_⟩
  · obtain ⟨huntraced, fields, hnoted, hshown⟩ := Schema.pass_traced bs s []
    have hpass : (Schema.pass r.visit bs s).failure = none := by rw [← huntraced]; exact hpassed
    rw [hpass] at hshown
    exact hnoted.trans hshown
  · obtain ⟨done, x, rest, rfl, hdone, hx⟩ := Schema.exists_of_pass_failure hfails
    obtain ⟨huntraced, fields, hnoted, hshown⟩ := Schema.pass_traced done s []
    have hpass : (Schema.pass r.visit done s).failure = none := by rw [← huntraced]; exact hdone
    rw [hpass] at hshown
    obtain rfl : fields = done.map Binding.field := hshown
    -- Up to `x` nothing fails, so everything before it is settled and the probe still fits there.
    obtain ⟨hfits, hout⟩ := pass_visit h done
    rw [hpass] at hout
    rw [← huntraced] at hfits hout
    obtain ⟨events, -, -, hstep⟩ := visit_step hfits x.field x.leaf
    have hfailure : (r.visit x.field x.leaf
        (Schema.pass (Schema.traced r.visit) done (s, [])).untraced.state).failure = some e := hx
    rw [hfailure] at hstep
    have hwhole : passed = _ := Schema.pass_append_none hdone
    rw [Schema.pass_cons_some hx] at hwhole
    rw [hwhole]
    exact ⟨done, x, rest, _, _, rfl, congrArg (· ++ [x.field]) hnoted, rfl, hout.2,
      hstep.breaks⟩

end Resolver

end ConfigBinding
