import ConfigBinding.Launch
import ConfigBinding.Proofs.Config.Loading
import ConfigBinding.Proofs.Resolution.Relaxation

/-!
# Dry runs

A dry run is a load with optional secrets. It reads and layers the same descriptor, so what it comes
to differs from the strict load only through required secrets that no text wins for: where the
strict load succeeds, the dry run does the same (`load_relaxed`), and where only one of them fails,
it is the strict one, at such a secret (`load_of_relaxed_error`, `load_lacksSecret`).
-/

set_option autoImplicit false

namespace ConfigBinding

namespace Config

/-- The same configuration with optional secrets. -/
def relaxed (c : Config) : Config :=
  { c with optionalSecrets := true }

section
variable {w : World} {c : Config}

theorem layered_relaxed :
    c.relaxed.layered w (c.relaxed.startEnvironment w) = c.layered w (c.startEnvironment w) :=
  rfl

theorem resolved_relaxed {e : Environment} (h : (c.resolved w e).2.2 = none) :
    c.relaxed.resolved w e = c.resolved w e := by
  rw [resolved_eq_walkGroups w c] at h
  have hnone : ∀ error ∈ (walkGroups (c.resolver w e).visit c.scope c.groups c.beforeResolving).2.2,
      False := by simp [h]
  rw [resolved_eq_walkGroups w c.relaxed, resolved_eq_walkGroups w c]
  exact (walkGroups_agree (c.resolver w e).agreeWhile_relaxed c.scope c.groups trivial hnone).1

/-- Where a load succeeds, the dry run comes to the same. -/
theorem load_relaxed (h : (c.load w).outcome = .ok ()) :
    c.relaxed.load w = ⟨(c.load w).config.relaxed, .ok (), (c.load w).events⟩ := by
  by_cases hs : c.stage = .fieldsCollected
  · obtain ⟨e, hl, hf⟩ := (load_eq_ok_iff hs).mp h
    rw [load_of_layered (c := c.relaxed) hs hl, load_of_layered hs hl, resolved_relaxed hf, hf]
    rfl
  · rw [load_of_not_fresh hs] at h
    cases h

/-- A dry run fails only where the load fails, with the same error or before that at a required
secret. -/
theorem load_of_relaxed_error {error : ConfigError}
    (h : (c.relaxed.load w).outcome = .error error) :
    (c.load w).outcome = .error error ∨
      ∃ e, (c.layered w (c.startEnvironment w)).result = .ok e ∧
        ∃ done x rest l, c.bindings = done ++ x :: rest ∧
          (c.supply w e).relaxed.Breaks x error l ∧
          ∃ y ∈ done, (c.supply w e).LacksSecret y.field ∧
            (c.load w).outcome = .error (.missingRequired y.field.key) := by
  by_cases hs : c.stage = .fieldsCollected
  · cases hl : (c.layered w (c.startEnvironment w)).result with
    | error cause =>
      rw [load_of_layered_error (c := c.relaxed) hs hl] at h
      rw [load_of_layered_error hs hl]
      exact .inl h
    | ok e =>
      rw [load_of_layered (c := c.relaxed) hs hl] at h
      rw [load_of_layered hs hl]
      obtain ⟨-, hstrict⟩ := resolved_outcome w c e
      obtain ⟨-, hrelaxed⟩ := resolved_outcome w c.relaxed e
      cases hf : (c.relaxed.resolved w e).2.2 with
      | none => rw [hf] at h; cases h
      | some cause =>
        rw [hf] at h hrelaxed
        obtain rfl := Except.error.inj h
        obtain hsame | ⟨done, x, rest, l, hsplit, hbreaks, y, hy, hlacks, hfirst⟩ :=
          Supply.Outcome.of_relaxed_error (t := c.supply w e) hrelaxed hstrict
        · exact .inl (by rw [hsame])
        · exact .inr ⟨e, rfl, done, x, rest, l, hsplit, hbreaks, y, hy, hlacks, by rw [hfirst]⟩
  · rw [load_of_not_fresh (c := c.relaxed) hs] at h
    rw [load_of_not_fresh hs]
    exact .inl h

theorem load_lacksSecret {error : ConfigError} (h : (c.load w).outcome = .error error)
    (hrelaxed : (c.relaxed.load w).outcome = .ok ()) :
    ∃ e, (c.layered w (c.startEnvironment w)).result = .ok e ∧
      ∃ y ∈ c.bindings, (c.supply w e).LacksSecret y.field ∧
        error = .missingRequired y.field.key := by
  by_cases hs : c.stage = .fieldsCollected
  · obtain ⟨e, hl, hf⟩ := (load_eq_ok_iff (c := c.relaxed) hs).mp hrelaxed
    rw [layered_relaxed] at hl
    rw [load_of_layered hs hl] at h
    obtain ⟨-, hstrict⟩ := resolved_outcome w c e
    obtain ⟨-, hout⟩ := resolved_outcome w c.relaxed e
    rw [hf] at hout
    cases hfailure : (c.resolved w e).2.2 with
    | none => rw [hfailure] at h; cases h
    | some cause =>
      rw [hfailure] at h hstrict
      obtain rfl := Except.error.inj h
      exact ⟨e, hl, hstrict.lacksSecret hout⟩
  · rw [load_of_not_fresh (c := c.relaxed) hs] at hrelaxed
    cases hrelaxed

end

theorem build_relaxed (s : Settings) (groups : List (String × Schema Leaf)) :
    build { s with optionalSecrets := true } groups =
      ⟨(build s groups).result.map relaxed, (build s groups).events⟩ := by
  unfold build
  dsimp only
  cases collectGroups s.scope groups <;> rfl

end Config

/-! ## Launches -/

namespace Launch

section
variable {w : World} {o : LoadOptions} {c : Config} {events : List Event}

theorem outcome_of_run {a : Application} (h : (afterBuild w o c events).result = .ok (.run a)) :
    (c.load w).outcome = .ok () := by
  unfold afterBuild at h
  cases hload : (c.load w).outcome with
  | ok _ => rfl
  | error error => simp only [hload] at h; cases h

theorem afterBuild_of_ok (h : (c.load w).outcome = .ok ()) (hvalidate : o.validate = true) :
    (afterBuild w o c events).result = .ok .valid := by
  simp only [afterBuild, h, hvalidate, ↓reduceIte]

theorem afterBuild_eq_error_iff {error : LaunchError} :
    (afterBuild w o c events).result = .error error ↔ (c.load w).outcome = .error error.cause := by
  unfold afterBuild
  cases hload : (c.load w).outcome with
  | ok _ => cases hvalidate : o.validate <;> simp [hload]
  | error cause =>
    obtain ⟨cause'⟩ := error
    simp [hload]

end

/-- The groups of an application's configuration. -/
def groups (name : String) (schema : Schema Leaf) : List (String × Schema Leaf) :=
  [(runtimeGroupName, ServiceRuntime.schema), (name, schema)]

section
variable {w : World} {o : LoadOptions} {s : Settings} {name : String} {schema : Schema Leaf}

theorem start_of_error {e : ConfigError}
    (h : (Config.build (o.apply s) (groups name schema)).result = .error e) :
    (start w o s name schema).result = .error ⟨e⟩ := by
  unfold start
  unfold groups at h
  simp only [h]

/-- A launch shows the usage of the configuration that is built, or loads it. -/
theorem start_of_ok {c : Config}
    (h : (Config.build (o.apply s) (groups name schema)).result = .ok c) :
    (start w o s name schema).result =
      if o.usage then .ok (.showUsage c.usage)
      else (afterBuild w o c (Config.build (o.apply s) (groups name schema)).events).result := by
  unfold start
  unfold groups at h ⊢
  simp only [h]
  split <;> rfl

theorem build_validate {c : Config}
    (h : (Config.build (({ o with validate := false } : LoadOptions).apply s)
      (groups name schema)).result = .ok c) :
    (Config.build (({ o with validate := true } : LoadOptions).apply s)
      (groups name schema)).result = .ok c.relaxed := by
  have hsettings : ({ o with validate := true } : LoadOptions).apply s =
      { ({ o with validate := false } : LoadOptions).apply s with optionalSecrets := true } := rfl
  rw [hsettings, Config.build_relaxed, h]
  rfl

end

end Launch

/-- **A dry run is a faithful relaxation.** If the strict load succeeds, the relaxed one comes to
the same configuration but for the flag, with the same events. If the relaxed load fails, so does
the strict one, with the same error or for a required secret that no text wins for and that stands
before the field at which the relaxed one failed. If only the strict load fails, that is for such a
secret. So a launch that only checks finds the configuration valid whenever the application would
run, and fails only when that would fail. -/
theorem dryRun_relaxes (w : World) :
    (∀ c : Config,
      let strict : Config := { c with optionalSecrets := false }
      let dry : Config := { c with optionalSecrets := true }
      ((strict.load w).outcome = .ok () →
        dry.load w =
          ⟨{ (strict.load w).config with optionalSecrets := true }, .ok (),
            (strict.load w).events⟩) ∧
      (∀ error, (dry.load w).outcome = .error error →
        (strict.load w).outcome = .error error ∨
          ∃ e, (c.layered w (c.startEnvironment w)).result = .ok e ∧
            ∃ done x rest l, c.bindings = done ++ x :: rest ∧ (dry.supply w e).Breaks x error l ∧
              ∃ y ∈ done, (strict.supply w e).LacksSecret y.field ∧
                (strict.load w).outcome = .error (.missingRequired y.field.key)) ∧
      ∀ error, (strict.load w).outcome = .error error → (dry.load w).outcome = .ok () →
        ∃ e, (c.layered w (c.startEnvironment w)).result = .ok e ∧
          ∃ y ∈ c.bindings, (strict.supply w e).LacksSecret y.field ∧
            error = .missingRequired y.field.key) ∧
    ∀ (o : LoadOptions) (s : Settings) (name : String) (schema : Schema Leaf),
      let dry := Launch.start w { o with validate := true } s name schema
      let strict := Launch.start w { o with validate := false } s name schema
      (∀ a, strict.result = .ok (.run a) → dry.result = .ok .valid) ∧
        ∀ error, dry.result = .error error → ∃ cause, strict.result = .error cause := by
  refine ⟨fun c => ?_, fun o s name schema => ?_⟩
  · intro strict dry
    exact ⟨Config.load_relaxed (c := strict), fun _ => Config.load_of_relaxed_error (c := strict),
      fun _ => Config.load_lacksSecret (c := strict)⟩
  · intro dry strict
    cases hbuild : (Config.build (({ o with validate := false } : LoadOptions).apply s)
      (Launch.groups name schema)).result with
    | error e =>
      have hstrict : strict.result = .error ⟨e⟩ := Launch.start_of_error hbuild
      refine ⟨fun a hrun => ?_, fun _ _ => ⟨_, hstrict⟩⟩
      rw [hstrict] at hrun
      cases hrun
    | ok c =>
      simp only [strict, dry, Launch.start_of_ok hbuild,
        Launch.start_of_ok (Launch.build_validate hbuild)]
      cases o.usage with
      | true => exact ⟨nofun, nofun⟩
      | false =>
        refine ⟨fun a hrun => ?_, fun error herror => ?_⟩
        · have hload := Config.load_relaxed (Launch.outcome_of_run hrun)
          exact Launch.afterBuild_of_ok (by rw [hload]) rfl
        · have hfails := Launch.afterBuild_eq_error_iff.mp herror
          cases hload : (c.load w).outcome with
          | ok _ => rw [Config.load_relaxed hload] at hfails; cases hfails
          | error cause => exact ⟨⟨cause⟩, Launch.afterBuild_eq_error_iff.mpr hload⟩

/-- Without its token the sample fails to load, and passes a dry run. -/
example :
    let s := { Config.sampleSettings .empty with descriptor := none, optionalSecrets := false }
    let c := Config.fresh s Config.sampleGroups
    (c.load Config.sampleWorld).outcome = .error (.missingRequired "TOKEN") ∧
      (c.relaxed.load Config.sampleWorld).outcome = .ok () := by
  decide +kernel

end ConfigBinding
