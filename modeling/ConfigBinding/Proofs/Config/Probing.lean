import ConfigBinding.Proofs.Config.Walks
import ConfigBinding.Proofs.Resolution.Probing

/-!
# A load and the platform

A load keeps one probe over all its groups. So the platform is asked once if a field that the load
comes to reaches the platform's tier, and otherwise not at all; and what the platform would answer
to further questions plays no part (`load_of_platform`).
-/

set_option autoImplicit false

namespace ConfigBinding.Config

variable {w : World} {c : Config} {e : Environment}

/-- The fields that a resolution comes to. -/
def visitedFields (w : World) (c : Config) (e : Environment) : List Field :=
  (c.tracedResolution w e).2.1.2

/-- The probe of a resolution is that after the fields it comes to. -/
theorem probe_resolved :
    (c.resolved w e).2.1.probe =
      Probe.after (c.platform.getD w.platform) c.asked e (c.visitedFields w e) := by
  -- A visitor agrees with itself, so what its visits keep the whole walk keeps.
  have htracks := (walkGroups_agree ((c.resolver w e).agreeWhile_tracks c.asked) c.scope c.groups
    (s := (c.beforeResolving, [])) (by simp [Resolver.Tracks, Probe.after, beforeResolving])
    (fun _ _ => trivial)).2
  rw [← resolved_eq_traced]
  exact htracks

theorem resolved_of_platform {q : Platform} (h : q c.asked = c.platform.getD w.platform c.asked) :
    { c with platform := some q }.resolved w e = c.resolved w e := by
  rw [resolved_eq_walkGroups w { c with platform := some q }, resolved_eq_walkGroups w c]
  exact (walkGroups_agree ((c.resolver w e).agreeWhile_platform h) c.scope c.groups .fresh
    fun _ _ => trivial).1

/-- With a platform that answers the first question as before, a load is the same. -/
theorem load_of_platform {q : Platform} (h : q c.asked = c.platform.getD w.platform c.asked) :
    { c with platform := some q }.load w =
      { c.load w with config := { (c.load w).config with platform := some q } } := by
  by_cases hs : c.stage = .fieldsCollected
  · cases hl : (c.layered w (c.startEnvironment w)).result with
    | error error =>
      rw [load_of_layered_error (c := { c with platform := some q }) hs hl,
        load_of_layered_error hs hl]
      rfl
    | ok e =>
      rw [load_of_layered (c := { c with platform := some q }) hs hl, load_of_layered hs hl,
        resolved_of_platform h]
      rfl
  · rw [load_of_not_fresh (c := { c with platform := some q }) hs, load_of_not_fresh hs]

theorem asked_load_of_no_field
    (h : c.stage = .fieldsCollected → ∃ error, c.Spoiled w error) :
    (c.load w).config.asked = c.asked := by
  by_cases hs : c.stage = .fieldsCollected
  · obtain ⟨error, hspoiled⟩ := h hs
    rw [load_of_layered_error hs (layered_eq_error_iff.mpr hspoiled)]
  · rw [load_of_not_fresh hs]

section
variable (hs : c.stage = .fieldsCollected)
  (hl : (c.layered w (c.startEnvironment w)).result = .ok e)
include hs hl

theorem asked_load :
    (c.load w).config.asked =
      c.asked + if ∃ f ∈ c.visitedFields w e, f.ReachesPlatform e then 1 else 0 := by
  have hasked : (c.load w).config.asked = (c.resolved w e).2.1.probe.asked := by
    rw [load_of_layered hs hl]
    rfl
  rw [hasked, probe_resolved, Probe.asked_after]

/-- Where a load with a layered environment fails, that is at the field it visits last; where it
succeeds, it visits all. -/
theorem visited_load :
    ((c.load w).outcome = .ok () →
      c.visitedFields w e = c.bindings.map Binding.field ∧
        List.Forall₂ (c.supply w e).Settles c.bindings (c.load w).config.bindings) ∧
    ∀ error, (c.load w).outcome = .error error → ∃ done x rest settled l,
      c.bindings = done ++ x :: rest ∧
        c.visitedFields w e = done.map Binding.field ++ [x.field] ∧
        (c.load w).config.bindings = settled ++ ⟨x.field, l⟩ :: rest ∧
        List.Forall₂ (c.supply w e).Settles done settled ∧ (c.supply w e).Breaks x error l := by
  obtain ⟨hall, hbroken⟩ :=
    Resolver.traced_pass_visit (r := c.resolver w e) (s := c.beforeResolving) .fresh c.bindings
  rw [← seen_tracedResolution] at hall hbroken
  have hsame := resolved_eq_traced (w := w) (c := c) (e := e)
  have hgroups : (c.load w).config.bindings = (seen c.scope (c.tracedResolution w e)).bindings := by
    rw [load_of_layered hs hl, ← hsame]
    rfl
  have hfailure : (c.resolved w e).2.2 = (c.tracedResolution w e).2.2 := by rw [← hsame]
  obtain ⟨-, hout⟩ := resolved_outcome w c e
  cases hf : (c.tracedResolution w e).2.2 with
  | none =>
    have hok : (c.resolved w e).2.2 = none := hfailure.trans hf
    rw [hok] at hout
    refine ⟨fun _ => ⟨hall hf, ?_⟩, fun error herror => ?_⟩
    · rw [load_of_layered hs hl]
      exact hout.2
    · rw [load_of_layered hs hl, hok] at herror
      cases herror
  | some cause =>
    have hfails : (c.load w).outcome = .error cause := by
      rw [load_of_layered hs hl, hfailure.trans hf]
    rw [hfails, hgroups]
    refine ⟨nofun, fun error herror => ?_⟩
    obtain rfl := Except.error.inj herror
    exact hbroken cause hf

end

/-- **The platform is asked at most once.** A load that comes to no field asks nothing. Any other
asks once if one of the fields it visits has no value in the layered environment, no default, and a
value for the platform, and otherwise not at all; the visited fields are those of all leaves, or, if
a leaf ends the load, those up to it. All leaves are settled by the one answer, and how the platform
would answer a second time makes no difference to the load. -/
theorem platform_asked_once (w : World) (c : Config) :
    let platform := c.platform.getD w.platform
    let loaded := c.load w
    ((c.stage = .fieldsCollected → ∃ error, c.Spoiled w error) → loaded.config.asked = c.asked) ∧
    (∀ e, c.stage = .fieldsCollected → (c.layered w (c.startEnvironment w)).result = .ok e →
      let visited := c.visitedFields w e
      let t : Supply := ⟨e, platform c.asked, c.optionalSecrets⟩
      loaded.config.asked = c.asked + (if ∃ f ∈ visited, f.ReachesPlatform e then 1 else 0) ∧
      (∀ f : Field, f.ReachesPlatform e →
        t.text? f = if platform c.asked then f.onPlatform? else none) ∧
      (loaded.outcome = .ok () →
        visited = c.bindings.map Binding.field ∧
          List.Forall₂ t.Settles c.bindings loaded.config.bindings) ∧
      ∀ error, loaded.outcome = .error error → ∃ done x rest settled l,
        c.bindings = done ++ x :: rest ∧ visited = done.map Binding.field ++ [x.field] ∧
          loaded.config.bindings = settled ++ ⟨x.field, l⟩ :: rest ∧
          List.Forall₂ t.Settles done settled ∧ t.Breaks x error l) ∧
    ∀ q : Platform, q c.asked = platform c.asked →
      { c with platform := some q }.load w =
        { loaded with config := { loaded.config with platform := some q } } := by
  intro platform loaded
  refine ⟨asked_load_of_no_field, fun e hs hl => ?_, fun q => load_of_platform⟩
  intro visited t
  exact ⟨asked_load hs hl, fun f => Supply.text?_of_reachesPlatform (t := t), visited_load hs hl⟩

/-- Two groups share the first answer of a platform that would then answer otherwise. -/
example :
    let zone := Schema.ofLeaves
      [(⟨"zone", ⟨[(Tags.onPlatformKey, "a")]⟩⟩, Leaf.new (.kind .text))]
    let s := { sampleSettings .empty with descriptor := none, platform := some (· == 0) }
    let loaded := ((fresh s [("north", zone), ("south", zone)]).load sampleWorld).config
    loaded.asked = 1 ∧
      loaded.snapshot.2.groups.map (·.values) = [[("ZONE", "\"a\"")], [("ZONE", "\"a\"")]] := by
  decide +kernel

end ConfigBinding.Config
