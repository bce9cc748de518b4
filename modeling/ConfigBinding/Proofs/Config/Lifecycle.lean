import ConfigBinding.Proofs.Config.Wrapping

/-!
# The life of a configuration

What the first load of a configuration comes to is one of three things (`FirstLoad`): its descriptor
cannot be used, a leaf breaks the load, or every leaf is settled. Nothing else ever changes a built
configuration: before the first load the views do not (`Entered.run_views`), and after it neither
views nor further loads do (`run_settled`).
-/

set_option autoImplicit false

namespace ConfigBinding

/-- The error of a field that has no value, or that refuses the one it is given. -/
def ConfigError.IsOfField (e : ConfigError) : Prop :=
  (∃ key, e = .missingRequired key) ∨ ∃ p, e = .parse p

theorem ConfigError.IsOfField.not_isOfDescriptor {e : ConfigError} (h : e.IsOfField) :
    e.isOfDescriptor = false := by
  obtain ⟨key, rfl⟩ | ⟨p, rfl⟩ := h <;> rfl

theorem Supply.Breaks.isOfField {t : Supply} {x : Binding} {e : ConfigError} {l : Leaf}
    (h : t.Breaks x e l) : e.IsOfField := by
  cases h with
  | missing => exact .inl ⟨_, rfl⟩
  | refused => exact .inr ⟨_, rfl⟩

namespace Config

/-- What the first load of a configuration comes to: its outcome, and the stage and the environment
that the configuration then has. -/
inductive FirstLoad (w : World) (c : Config) :
    Except ConfigError Unit → Stage → Option Environment → Prop
  | spoiled {error : ConfigError} : c.Spoiled w error →
      FirstLoad w c (.error error) .failed none
  | broken {error : ConfigError} {e : Environment} :
      (c.layered w (c.startEnvironment w)).result = .ok e → error.IsOfField →
      FirstLoad w c (.error error) .failed (some e)
  | settled {e : Environment} : (c.layered w (c.startEnvironment w)).result = .ok e →
      FirstLoad w c (.ok ()) .fieldsResolved (some e)

section
variable {w : World} {c : Config}

namespace FirstLoad

variable {outcome : Except ConfigError Unit} {stage : Stage} {found : Option Environment}

theorem stage_eq (h : FirstLoad w c outcome stage found) :
    stage = .fieldsResolved ∨ stage = .failed := by
  cases h with
  | spoiled | broken => exact .inr rfl
  | settled => exact .inl rfl

theorem stage_ne (h : FirstLoad w c outcome stage found) : stage ≠ .fieldsCollected := by
  obtain rfl | rfl := h.stage_eq <;> decide

theorem resolved_iff (h : FirstLoad w c outcome stage found) :
    stage = .fieldsResolved ↔ outcome = .ok () := by
  cases h <;> simp

theorem error_eq (h : FirstLoad w c outcome stage found) {error : ConfigError}
    (herror : outcome = .error error) : error.isOfDescriptor = true ∨ error.IsOfField := by
  cases h with
  | spoiled hspoiled => exact .inl (Except.error.inj herror ▸ hspoiled.isOfDescriptor)
  | broken _ hfield => exact .inr (Except.error.inj herror ▸ hfield)
  | settled => cases herror

/-- An error about a descriptor is the reason why it could not be used. -/
theorem spoiled_of_descriptor (h : FirstLoad w c outcome stage found) {error : ConfigError}
    (herror : outcome = .error error) (hd : error.isOfDescriptor = true) :
    c.Spoiled w error ∧ found = none := by
  cases h with
  | spoiled hspoiled => exact ⟨Except.error.inj herror ▸ hspoiled, rfl⟩
  | broken _ hfield =>
    obtain rfl := Except.error.inj herror
    rw [hfield.not_isOfDescriptor] at hd
    cases hd
  | settled => cases herror

/-- A configuration that came to its fields has the environment that was layered. -/
theorem environment_of_fields (h : FirstLoad w c outcome stage found)
    (hfields : outcome = .ok () ∨ ∃ error, outcome = .error error ∧ error.IsOfField) :
    ∃ e, (c.layered w (c.startEnvironment w)).result = .ok e ∧ found = some e := by
  cases h with
  | spoiled hspoiled =>
    obtain hok | ⟨error, herror, hfield⟩ := hfields
    · cases hok
    · obtain rfl := Except.error.inj herror
      have hd := hspoiled.isOfDescriptor
      rw [hfield.not_isOfDescriptor] at hd
      cases hd
  | broken hl | settled hl => exact ⟨_, hl, rfl⟩

end FirstLoad

theorem firstLoad (hs : c.stage = .fieldsCollected) :
    FirstLoad w c (c.load w).outcome (c.load w).config.stage (c.load w).config.environment? := by
  cases hl : (c.layered w (c.startEnvironment w)).result with
  | error error =>
    rw [load_of_layered_error hs hl]
    exact .spoiled (layered_eq_error_iff.mp hl)
  | ok e =>
    obtain ⟨-, hout⟩ := resolved_outcome w c e
    rw [load_of_layered hs hl]
    cases hf : (c.resolved w e).2.2 with
    | none =>
      simp only [afterResolving, hf, environment?]
      exact .settled hl
    | some error =>
      rw [hf] at hout
      obtain ⟨_, x, _, _, l, -, -, -, -, hbreaks⟩ := hout
      simp only [afterResolving, hf, environment?]
      exact .broken hl hbreaks.isOfField

/-! ## Runs -/

/-- Once loaded, a configuration whose structures are present stays as it is. -/
theorem run_settled (he : c.Entered) (hs : c.stage ≠ .fieldsCollected)
    (steps : List (World × Operation)) :
    c.run steps = (c, steps.map fun step => (c.perform step.1 step.2).2) := by
  refine run_of_fixed fun step _ => ?_
  by_cases hop : step.2 = .load
  · simp only [hop, perform, load_of_not_fresh hs]
  · exact he.perform_view hop

/-- A run with a load in it comes to what its first load comes to, in the world of that load. -/
theorem run_of_load (he : c.Entered) (hs : c.stage = .fieldsCollected)
    {before : List (World × Operation)} (hbefore : ∀ step ∈ before, step.2 ≠ .load)
    (after : List (World × Operation)) :
    c.run (before ++ (w, .load) :: after) =
      ((c.load w).config,
        before.map (fun step => (c.perform step.1 step.2).2) ++
          (.outcome (c.load w).outcome, (c.load w).events) ::
            after.map fun step => ((c.load w).config.perform step.1 step.2).2) := by
  have hafter := run_settled (he.load w) (firstLoad (w := w) hs).stage_ne after
  rw [run_append, he.run_views hbefore]
  simp only [run, perform, hafter]

end

/-- **The life of a configuration.** As long as a built configuration was not loaded, it is as it
was built, whatever else was done with it. Its first load, after any operations and with any after
it, alone decides what it is from then on: resolved if that load succeeded and failed otherwise,
without an environment if the descriptor could not be used, and with the environment that was
layered if the load succeeded or failed at a field. Every other load is refused and changes
nothing. -/
theorem lifecycle {s : Settings} {groups : List (String × Schema Leaf)} {c : Config}
    (hbuild : (build s groups).result = .ok c) {before : List (World × Operation)}
    (hbefore : ∀ step ∈ before, step.2 ≠ .load) :
    c.run before = (c, before.map fun step => (c.perform step.1 step.2).2) ∧
      c.stage = .fieldsCollected ∧ c.environment? = none ∧
      ∀ (w : World) (after : List (World × Operation)),
        let first := c.load w
        let c' := first.config
        (c.run (before ++ (w, .load) :: after)).1 = c' ∧
          (c.run (before ++ (w, .load) :: after)).2 =
            before.map (fun step => (c.perform step.1 step.2).2) ++
              (.outcome first.outcome, first.events) ::
                after.map (fun step => (c'.perform step.1 step.2).2) ∧
          (∀ v, c'.perform v .load = (c', .outcome (.error .alreadyLoaded), [])) ∧
          (c'.stage = .fieldsResolved ∨ c'.stage = .failed) ∧
          (c'.stage = .fieldsResolved ↔ first.outcome = .ok ()) ∧
          (∀ error, first.outcome = .error error →
            error.isOfDescriptor = true ∨ error.IsOfField) ∧
          (∀ error, first.outcome = .error error → error.isOfDescriptor = true →
            c'.environment? = none) ∧
          ((first.outcome = .ok () ∨ ∃ error, first.outcome = .error error ∧ error.IsOfField) →
            ∃ e, (c.layered w (c.startEnvironment w)).result = .ok e ∧
              c'.environment? = some e) := by
  obtain rfl := eq_fresh_of_build hbuild
  have he := entered_fresh s groups
  refine ⟨he.run_views hbefore, rfl, rfl, fun w after => ?_⟩
  intro first c'
  have hfirst : FirstLoad w (fresh s groups) first.outcome c'.stage c'.environment? := firstLoad rfl
  have hrun := run_of_load (w := w) he rfl hbefore after
  refine ⟨by rw [hrun], by rw [hrun], fun v => ?_, hfirst.stage_eq, hfirst.resolved_iff,
    fun error => hfirst.error_eq,
    fun error herror hd => (hfirst.spoiled_of_descriptor herror hd).2,
    hfirst.environment_of_fields⟩
  simp only [perform, load_of_not_fresh hfirst.stage_ne]

/-- A load that succeeds, with views before and after it, and another load. -/
theorem lifecycle_sample :
    let s := sampleSettings (Environment.ofPairs [("PORT", "9000")])
    let c := fresh s sampleGroups
    (build s sampleGroups).result = .ok c ∧
      (c.run ([(sampleWorld, .snapshot)] ++ (sampleWorld, .load) :: [(sampleWorld, .load)])).1 =
        (c.load sampleWorld).config ∧
      (c.load sampleWorld).config.stage = .fieldsResolved := by
  intro s c
  have hbuild : (build s sampleGroups).result = .ok c := build_eq_ok_iff.mpr ⟨by decide, rfl⟩
  have hlayered : (c.layered sampleWorld (c.startEnvironment sampleWorld)).result = .ok _ :=
    layered_sample rfl (by decide)
  have hok : (c.load sampleWorld).outcome = .ok () :=
    (load_eq_ok_iff rfl).mpr ⟨_, hlayered, by decide⟩
  have hviews : ∀ step ∈ [(sampleWorld, Operation.snapshot)], step.2 ≠ .load := by simp
  obtain ⟨-, -, -, hloaded⟩ := lifecycle hbuild hviews
  obtain ⟨hrun, -, -, -, hstage, -⟩ := hloaded sampleWorld [(sampleWorld, .load)]
  exact ⟨hbuild, hrun, hstage.mpr hok⟩

end Config

end ConfigBinding
