import ConfigBinding.Proofs.Config.Walks
import ConfigBinding.Proofs.Config.DescriptorFaults
import ConfigBinding.Proofs.Environment.Offers
import ConfigBinding.Proofs.Resolution.Reports

/-!
# What a load reports

The events of a load are those of layering its descriptor (`Layers`), then one for each leaf that it
gave a value (`Supply.reports`), then, if it succeeds, that it did. So they can be told afterwards
from what the configuration shows: the fields collected when it was built and the environment that
it resolved against.
-/

set_option autoImplicit false

namespace ConfigBinding.Config

variable {w : World} {c : Config} {start e : Environment}

/-- What is reported while an environment is layered under the start environment: nothing without a
descriptor, and else its decoding, its literal entries whose names the start environment has, and
how much the environment grew. -/
inductive Layers (w : World) (c : Config) (start e : Environment) : List Event → Prop
  | none : c.descriptor = .none → e = start → Layers w c start e []
  | some {path : Path} {d : Descriptor} {decoding : List Event} :
      c.descriptor = .some path → Descriptor.load w.files path = ⟨.ok d, decoding⟩ →
      d.validateSecrets c.fields = .ok () →
      (∀ event ∈ decoding, (∃ key, event = .valueIgnored key) ∨
        ∃ kind n, event = .descriptorDecoded path kind n) →
      start.size ≤ e.size →
      Layers w c start e
        (decoding ++
          ((d.entries.filter fun entry => !entry.isSecret && start.contains entry.name).map
            fun entry => .entryOverridden entry.name) ++
          [.environmentLayered path (e.size - start.size)])

theorem overridden_eq (d : Descriptor) (start : Environment) :
    d.overridden start =
      (d.entries.filter fun entry => !entry.isSecret && start.contains entry.name).map fun entry =>
        .entryOverridden entry.name := by
  rw [Descriptor.overridden, Descriptor.literals, List.filter_filter]
  simp only [Bool.and_comm]

theorem layers_of_layered (h : (c.layered w start).result = .ok e) :
    Layers w c start e (c.layered w start).events := by
  obtain ⟨hnone, rfl⟩ | ⟨path, d, hpath, hd, hv, rfl⟩ := layered_eq_ok_iff.mp h
  · rw [layered_of_none hnone]
    exact .none hnone rfl
  · have hgrowth := start.size_layer (d.candidates start)
    have hadded : (start.layer (d.candidates start)).2 =
        (start.layer (d.candidates start)).1.size - start.size := by omega
    rw [layered_of_some hpath hd hv, overridden_eq, hadded]
    exact .some hpath (by rw [← hd]) hv (fun event => Descriptor.mem_events_load) (by omega)

/-- A first load has an environment afterwards exactly if one was layered. -/
theorem environment?_load_iff (hs : c.stage = .fieldsCollected) :
    (c.load w).config.environment? = .some e ↔
      (c.layered w (c.startEnvironment w)).result = .ok e := by
  cases hl : (c.layered w (c.startEnvironment w)).result with
  | error error => simp [load_of_layered_error hs hl, environment?]
  | ok e' =>
    rw [load_of_layered hs hl]
    cases hf : (c.resolved w e').2.2 <;> simp [environment?, afterResolving, hf]

/-- The reports of a load that came to its fields, in order. -/
theorem events_load (hs : c.stage = .fieldsCollected)
    (hl : (c.layered w (c.startEnvironment w)).result = .ok e) :
    ∃ values, (c.load w).events = (c.layered w (c.startEnvironment w)).events ++ values ++
        (match (c.load w).outcome with
          | .ok () => [.loaded c.groups.length]
          | .error _ => []) ∧
      ((c.load w).outcome = .ok () →
        (c.supply w e).Account c.bindings (c.load w).config.bindings values .none) ∧
      ∀ error, (c.load w).outcome = .error error →
        (c.supply w e).Account c.bindings (c.load w).config.bindings values (.some error) := by
  obtain ⟨values, hvalues, haccount⟩ :=
    Resolver.pass_reports (r := c.resolver w e) (s := c.beforeResolving) .fresh c.bindings
  have hseen : seen c.scope (c.resolved w e) =
      Schema.pass (c.resolver w e).visit c.bindings c.beforeResolving :=
    resolveGroups_seen (c.resolver w e) c.scope c.groups c.beforeResolving
  rw [← hseen] at hvalues haccount
  have hevents : (c.resolved w e).2.1.events = values := hvalues
  have hbindings : (c.afterResolving e (c.resolved w e)).bindings =
      (seen c.scope (c.resolved w e)).bindings := rfl
  refine ⟨values, ?_⟩
  rw [load_of_layered hs hl, hevents, hbindings]
  have hfailure : (c.resolved w e).2.2 = (seen c.scope (c.resolved w e)).failure := rfl
  rw [hfailure]
  cases hf : (seen c.scope (c.resolved w e)).failure with
  | none =>
    rw [hf] at haccount
    exact ⟨rfl, fun _ => haccount, nofun⟩
  | some error =>
    rw [hf] at haccount
    refine ⟨rfl, nofun, ?_⟩
    rintro _ ⟨⟩
    exact haccount

/-- **The reports explain the load.** Whatever a run has made of a built configuration, its leaves
are those of the fields that were collected. A load that is refused reports nothing, and one that
comes to no environment at most that its descriptor was decoded. Any other first reports how its
environment was layered, then each leaf that it gave a value, in order, with the tier that the value
is resolved from in the environment that is then shown, and last, if it succeeds, that it did. A
leaf that no text wins for, or that breaks the load, is not reported. -/
theorem reports_explain_load {s : Settings} {groups : List (String × Schema Leaf)} {c₀ : Config}
    (hbuild : (build s groups).result = .ok c₀) (steps : List (World × Operation)) (w : World) :
    let collected := groups.flatMap fun g => (g.2.collect s.scope).2
    let c := (c₀.run steps).1
    let loaded := c.load w
    c.bindings.map Binding.field = collected ∧ c.fields = collected ∧
      (c.stage ≠ .fieldsCollected → loaded.events = []) ∧
      (c.stage = .fieldsCollected → loaded.config.environment? = none →
        ∃ error, loaded.outcome = .error error ∧ c.Spoiled w error ∧
          ∀ event ∈ loaded.events, (∃ key, event = .valueIgnored key) ∨
            ∃ path kind n, event = .descriptorDecoded path kind n) ∧
      (c.stage = .fieldsCollected → ∀ path d, c.descriptor = some path →
        (Descriptor.load w.files path).result = .ok d → d.validateSecrets collected = .ok () →
        ∃ e, loaded.config.environment? = some e) ∧
      (c.stage = .fieldsCollected → ∀ e, loaded.config.environment? = some e →
        let t : Supply := ⟨e, c.platform.getD w.platform c.asked, c.optionalSecrets⟩
        (∀ f, t.report? f = none ↔ t.text? f = none) ∧
          ∃ layering values,
            loaded.events = layering ++ values ++
                (match loaded.outcome with
                  | .ok () => [.loaded groups.length]
                  | .error _ => []) ∧
              Layers w c (c.startEnvironment w) e layering ∧
              (loaded.outcome = .ok () → t.Account c.bindings loaded.config.bindings values none) ∧
              ∀ error, loaded.outcome = .error error →
                t.Account c.bindings loaded.config.bindings values (some error)) := by
  intro collected c loaded
  obtain rfl := eq_fresh_of_build hbuild
  have hcollects := (Collects.fresh s groups).run steps
  have hfields : c.bindings.map Binding.field = collected := by
    rw [← hcollects.flatMap_eq, List.flatMap_map]
  have hsame : c.fields = collected := (fields_eq_of_coherent hcollects.coherent).trans hfields
  have hlength : c.groups.length = groups.length := by
    simpa only [List.length_map] using congrArg List.length hcollects.groups
  refine ⟨hfields, hsame, fun hs => by rw [show loaded = _ from load_of_not_fresh hs],
    fun hs hnone => ?_, fun hs path d hpath hd hv => ?_,
    fun hs e he => ⟨fun f => Supply.report?_eq_none_iff, ?_⟩⟩
  · cases hl : (c.layered w (c.startEnvironment w)).result with
    | error error =>
      have hspoiled := layered_eq_error_iff.mp hl
      have hload : loaded = _ := load_of_spoiled hs hspoiled
      rw [hload]
      exact ⟨error, rfl, hspoiled, fun event => hspoiled.mem_events⟩
    | ok e =>
      rw [(environment?_load_iff hs).mpr hl] at hnone
      cases hnone
  · rw [← hsame] at hv
    exact ⟨_, (environment?_load_iff hs).mpr
      (layered_eq_ok_iff.mpr (.inr ⟨path, d, hpath, hd, hv, rfl⟩))⟩
  · have hl := (environment?_load_iff hs).mp he
    obtain ⟨values, hevents, hok, herror⟩ := events_load hs hl
    rw [hlength] at hevents
    exact ⟨_, values, hevents, layers_of_layered hl, hok, herror⟩

/-- A configuration whose start environment has a key that the sample manifest sets. -/
def overridingConfig : Config :=
  fresh (sampleSettings (Environment.ofPairs [("KEYS", "local")])) sampleGroups

theorem build_overridingConfig :
    (build (sampleSettings (Environment.ofPairs [("KEYS", "local")])) sampleGroups).result =
      .ok overridingConfig :=
  build_eq_ok_iff.mpr ⟨by decide, rfl⟩

theorem load_overridingConfig : (overridingConfig.load sampleWorld).outcome = .ok () :=
  (load_eq_ok_iff rfl).mpr ⟨_, layered_sample rfl (by decide), by decide⟩

theorem reports_explain_load_sample :
    (overridingConfig.load sampleWorld).outcome = .ok () ∧
      ∃ e layering values, (overridingConfig.load sampleWorld).config.environment? = some e ∧
        (overridingConfig.load sampleWorld).events = layering ++ values ++ [.loaded 2] ∧
        Layers sampleWorld overridingConfig (overridingConfig.startEnvironment sampleWorld) e
          layering ∧
        values =
          (⟨e, true, true⟩ : Supply).reports (overridingConfig.bindings.map Binding.field) := by
  have hok : ((overridingConfig.run []).1.load sampleWorld).outcome = .ok () :=
    load_overridingConfig
  obtain ⟨-, -, -, -, hshown, hreports⟩ :=
    reports_explain_load build_overridingConfig [] sampleWorld
  obtain ⟨e, he⟩ := hshown rfl _ sampleDescriptor rfl load_sampleManifest (by decide)
  obtain ⟨-, layering, values, hevents, hlayers, haccount, -⟩ := hreports rfl e he
  rw [hok] at hevents
  exact ⟨hok, e, layering, values, he, hevents, hlayers, (haccount hok).2⟩

end ConfigBinding.Config
