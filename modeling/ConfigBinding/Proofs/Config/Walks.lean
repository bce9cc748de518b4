import ConfigBinding.Proofs.Config.Secrecy
import ConfigBinding.Proofs.Config.Wrapping

/-!
# Walks that agree

Positions of fields are stored nowhere: every operation walks over the groups anew, at a time when
leaves have other values and structures that were absent are present. That all walks come to the
fields that were collected when the configuration was built is an invariant of runs (`Collects`). It
decides which fields a resolution comes to (`shown_resolution`), and what a snapshot and the usage
table list.

How structures are held plays no part in any of this: groups that differ in it alone are built to
configurations that answer the same in every run (`run_of_plainly`).
-/

set_option autoImplicit false

namespace ConfigBinding

/-- A visit fails at the field that it is shown. -/
theorem Resolver.failure_visit {r : Resolver} {f : Field} {l : Leaf} {st : Resolving}
    {error : ConfigError} (h : (r.visit f l st).failure = some error) :
    error = .missingRequired f.key ∨ ∃ p, error = .parse p ∧ p.IsOf f := by
  unfold visit at h
  split at h
  · by_cases hd : r.demands f = true
    · rw [if_pos hd] at h
      exact .inl (Option.some.inj h).symm
    · rw [if_neg hd] at h
      cases h
  · split at h
    · cases h
    · exact .inr ⟨_, (Option.some.inj h).symm, rfl, rfl, rfl, rfl⟩

namespace Config

/-! ## The fields of a resolution -/

/-- The resolution of a configuration's groups against an environment, with the fields noted that it
comes to. -/
def tracedResolution (w : World) (c : Config) (e : Environment) :
    List Group × (Resolving × List Field) × Option ConfigError :=
  walkGroups (Schema.traced (c.resolver w e).visit) c.scope c.groups (c.beforeResolving, [])

section
variable {w : World} {c : Config} {e : Environment}

/-- The noting makes no difference to the resolution. -/
theorem resolved_eq_traced :
    ((c.tracedResolution w e).1, (c.tracedResolution w e).2.1.1, (c.tracedResolution w e).2.2) =
      c.resolved w e := by
  rw [resolved_eq_walkGroups]
  exact walkGroups_traced c.scope c.groups (c.beforeResolving, [])

theorem seen_tracedResolution :
    seen c.scope (c.tracedResolution w e) =
      Schema.pass (Schema.traced (c.resolver w e).visit) c.bindings (c.beforeResolving, []) :=
  walkGroups_seen (Schema.type_traced (c.resolver w e).type_visit) c.scope c.groups _

/-- A resolution comes to the fields of the leaves in order, up to the leaf whose visit fails. -/
theorem shown_resolution :
    Schema.Shown (c.resolver w e).visit c.bindings (c.tracedResolution w e).2.1.2
      (c.tracedResolution w e).2.2 := by
  obtain ⟨hpass, fields, hnoted, hshown⟩ :=
    Schema.pass_traced c.bindings c.beforeResolving []
  rw [← hpass, ← seen_tracedResolution] at hshown
  rw [← seen_tracedResolution] at hnoted
  have hfields : (c.tracedResolution w e).2.1.2 = fields := hnoted
  rw [hfields]
  exact hshown

end

/-! ## The collected fields -/

/-- The configuration has the groups and fields that were collected, and they are those of its
leaves. -/
structure Collects (scope : String) (collected : List (String × List Field)) (c : Config) :
    Prop where
  scope : c.scope = scope
  groups : c.groups.map (fun g => (g.name, g.fields)) = collected
  coherent : ∀ g ∈ c.groups, g.Coherent c.scope

namespace Collects

variable {scope : String} {collected : List (String × List Field)} {c : Config}

theorem fresh (s : Settings) (groups : List (String × Schema Leaf)) :
    Collects s.scope (groups.map fun g => (g.1, (g.2.collect s.scope).2)) (fresh s groups) where
  scope := rfl
  groups := by
    simp only [Config.fresh, List.map_map, Schema.collect_eq]
    rfl
  coherent := coherent_fresh s groups

theorem rewrap (h : Collects scope collected c) (f : Wrapping → Wrapping) :
    Collects scope collected (c.rewrap f) where
  scope := h.scope
  groups := by rw [← h.groups, Config.rewrap, List.map_map]; rfl
  coherent := by
    intro g hg
    obtain ⟨g, hmem, rfl⟩ := List.mem_map.mp hg
    have hcoherent : g.fields = (g.schema.bindings c.scope).map Binding.field := h.coherent g hmem
    rw [Group.Coherent, Group.rewrap, Schema.bindings_rewrap]
    exact hcoherent

theorem load (h : Collects scope collected c) (w : World) :
    Collects scope collected (c.load w).config where
  scope := (load_keeps w c).1.trans h.scope
  groups := (load_keeps w c).2.trans h.groups
  coherent := coherent_load h.coherent

/-- Every operation keeps the collected fields those of the leaves. -/
theorem perform (h : Collects scope collected c) (w : World) (op : Operation) :
    Collects scope collected (c.perform w op).1 := by
  cases op with
  | load => exact h.load w
  | snapshot => simp only [Config.perform, snapshot_eq]; exact h.rewrap _
  | logResolved => simp only [Config.perform, logResolved, snapshot_eq]; exact h.rewrap _
  | usage => exact h
  | stage => exact h
  | environment => exact h

theorem run (h : Collects scope collected c) (steps : List (World × Operation)) :
    Collects scope collected (c.run steps).1 := by
  induction steps generalizing c with
  | nil => exact h
  | cons step steps ih => exact ih (h.perform step.1 step.2)

/-- The collected fields are those of all leaves. -/
theorem flatMap_eq (h : Collects scope collected c) :
    collected.flatMap Prod.snd = c.bindings.map Binding.field := by
  rw [← fields_eq_of_coherent h.coherent, ← h.groups, List.flatMap_map]
  rfl

/-- A snapshot lists the keys of the collected fields. -/
theorem snapshot_keys (h : Collects scope collected c) :
    c.snapshot.2.groups.map (fun g => (g.name, g.values.map Prod.fst)) =
      collected.map fun g => (g.1, g.2.map Field.key) := by
  rw [snapshot_eq, ← h.groups, map_mapIdx, List.map_map]
  simp only [List.map_map, Function.comp_def, mapIdx_const]
  refine List.map_congr_left fun g hg => ?_
  have hcoherent : g.fields = (g.schema.bindings c.scope).map Binding.field := h.coherent g hg
  simp only [hcoherent, List.map_map]
  rfl

/-- The usage table has one row for each collected field. -/
theorem usage_eq (h : Collects scope collected c) :
    c.usage =
      Table.render ["CONFIG", "ENV", "TYPE", "DEFAULT", "ON GCE"]
        (collected.flatMap fun g => g.2.map fun f =>
          [g.1, f.key, f.typeName, (f.tags.get? "default").getD "",
            (f.tags.get? "onGCE").getD ""]) := by
  rw [usage, ← h.groups, List.flatMap_map]
  rfl

/-- A resolution comes to the collected fields in order: to all of them, or to the first up to the
one that it fails at. -/
theorem visited (h : Collects scope collected c) (w : World) (e : Environment) :
    (c.tracedResolution w e).2.1.2 <+: collected.flatMap Prod.snd ∧
      ((c.resolved w e).2.2 = none →
        (c.tracedResolution w e).2.1.2 = collected.flatMap Prod.snd) ∧
      ∀ error, (c.resolved w e).2.2 = some error →
        ∃ done f, (c.tracedResolution w e).2.1.2 = done ++ [f] ∧
          (error = .missingRequired f.key ∨ ∃ p, error = .parse p ∧ p.IsOf f) := by
  have hshown := shown_resolution (w := w) (c := c) (e := e)
  have hfailure : (c.tracedResolution w e).2.2 = (c.resolved w e).2.2 :=
    congrArg (·.2.2) resolved_eq_traced
  rw [hfailure] at hshown
  rw [h.flatMap_eq]
  refine ⟨hshown.isPrefix, fun hnone => ?_, fun error herror => ?_⟩
  · rw [hnone] at hshown
    exact hshown
  · rw [herror] at hshown
    obtain ⟨done, x, rest, st, -, hvisited, hfails⟩ := hshown
    exact ⟨_, x.field, hvisited, Resolver.failure_visit hfails⟩

end Collects

/-! ## How structures are held -/

/-- The same groups with every structure held plainly. -/
def plainGroups (groups : List (String × Schema Leaf)) : List (String × Schema Leaf) :=
  groups.map fun g => (g.1, g.2.plainly)

/-- To build a configuration and to hold its structures plainly can be done in either order. -/
theorem plainly_fresh (s : Settings) (groups : List (String × Schema Leaf)) :
    (fresh s groups).plainly = fresh s (plainGroups groups) := by
  have hgroup : ∀ g : String × Schema Leaf,
      (Group.collected s.scope g).rewrap (fun _ => .plain) =
        Group.collected s.scope (g.1, g.2.plainly) := by
    intro g
    simp only [Group.rewrap, Group.collected, Schema.plainly, Schema.bindings_rewrap,
      Schema.entered_eq_rewrap, Schema.rewrap_rewrap]
    rfl
  simp only [plainly, rewrap, fresh, plainGroups, List.map_map, Function.comp_def, hgroup]

theorem distinct_plainGroups {scope : String} {groups : List (String × Schema Leaf)} :
    (∀ g ∈ plainGroups groups, firstRepeated? [] (g.2.keys scope) = none) ↔
      ∀ g ∈ groups, firstRepeated? [] (g.2.keys scope) = none := by
  simp only [plainGroups, List.forall_mem_map, Schema.plainly, Schema.keys_rewrap]

/-- Groups that differ in how structures are held at most are built to configurations that answer
the same in every run, and that then differ in how structures are held at most. -/
theorem run_of_plainly {s : Settings} {groups₁ groups₂ : List (String × Schema Leaf)}
    (h : plainGroups groups₁ = plainGroups groups₂) (steps : List (World × Operation)) :
    ((fresh s groups₁).run steps).2 = ((fresh s groups₂).run steps).2 ∧
      ((fresh s groups₁).run steps).1.plainly = ((fresh s groups₂).run steps).1.plainly := by
  have hplain : ∀ groups, (fresh s (plainGroups groups)).run steps =
      (((fresh s groups).run steps).1.plainly, ((fresh s groups).run steps).2) := by
    intro groups
    rw [← plainly_fresh]
    exact run_rewrap (f := fun _ => .plain) (fun _ => rfl) (fresh s groups) steps
  have hruns := hplain groups₁
  rw [h, hplain groups₂] at hruns
  obtain ⟨hplainly, hanswers⟩ := Prod.mk.inj hruns
  exact ⟨hanswers.symm, hplainly.symm⟩

/-- **All walks agree.** Whatever a run has made of a built configuration, it has the fields that
were collected when it was built; a resolution comes to them in order, to all of them or up to the
one that it fails at; a snapshot lists their keys, and the usage table has a row for each, with its
group, its key, its type, and its default value and its value on the platform where it has them.
Views change nothing, in any order and number. And groups that differ in how structures are held at
most are built to a configuration with the same fields, which comes to the same values; it gives the
same answers, except that hashed maps may be shown in another order if theirs is another. -/
theorem walks_agree {s : Settings} {groups : List (String × Schema Leaf)} {c : Config}
    (hbuild : (build s groups).result = .ok c) (steps : List (World × Operation)) :
    let collected := groups.map fun g => (g.1, (g.2.collect s.scope).2)
    let c' := (c.run steps).1
    c.groups.map (fun g => (g.name, g.fields)) = collected ∧
      c'.groups.map (fun g => (g.name, g.fields)) = collected ∧
      (∀ w e,
        let traced := c'.tracedResolution w e
        (traced.1, traced.2.1.1, traced.2.2) = c'.resolved w e ∧
          traced.2.1.2 <+: collected.flatMap Prod.snd ∧
          ((c'.resolved w e).2.2 = none → traced.2.1.2 = collected.flatMap Prod.snd) ∧
          ∀ error, (c'.resolved w e).2.2 = some error →
            ∃ done f, traced.2.1.2 = done ++ [f] ∧
              (error = .missingRequired f.key ∨ ∃ p, error = .parse p ∧ p.IsOf f)) ∧
      c'.snapshot.2.groups.map (fun g => (g.name, g.values.map Prod.fst)) =
        collected.map (fun g => (g.1, g.2.map Field.key)) ∧
      c'.usage =
        Table.render ["CONFIG", "ENV", "TYPE", "DEFAULT", "ON GCE"]
          (collected.flatMap fun g => g.2.map fun f =>
            [g.1, f.key, f.typeName, (f.tags.get? "default").getD "",
              (f.tags.get? "onGCE").getD ""]) ∧
      (∀ views : List (World × Operation), (∀ step ∈ views, step.2 ≠ .load) →
        c'.run views = (c', views.map fun step => (c'.perform step.1 step.2).2)) ∧
      ∀ groups₂ order, plainGroups groups₂ = plainGroups groups →
        ∃ c₂, (build { s with hashOrder := order } groups₂).result = .ok c₂ ∧
          c₂.groups.map (fun g => (g.name, g.fields)) = collected ∧
          (c₂.run steps).1.plainly = (c'.withHashOrder order).plainly ∧
          (c₂.run steps).1.bindings = c'.bindings ∧
          (order = s.hashOrder → (c₂.run steps).2 = (c.run steps).2) ∧
          ∀ (i : Nat) (step : World × Operation), steps[i]? = some step → step.2 ≠ .snapshot →
            step.2 ≠ .logResolved → (c₂.run steps).2[i]? = (c.run steps).2[i]? := by
  intro collected c'
  obtain ⟨hdistinct, rfl⟩ := build_eq_ok_iff.mp hbuild
  have hfresh : Collects s.scope collected (fresh s groups) := Collects.fresh s groups
  have hrun : Collects s.scope collected c' := hfresh.run steps
  refine ⟨hfresh.groups, hrun.groups, fun w e => ⟨resolved_eq_traced, hrun.visited w e⟩,
    hrun.snapshot_keys, hrun.usage_eq, fun views hviews => ?_, fun groups₂ order hplain => ?_⟩
  · exact ((entered_fresh s groups).run steps).run_views hviews
  · have hdistinct₂ : ∀ g ∈ groups₂, firstRepeated? [] (g.2.keys s.scope) = none := by
      rw [← distinct_plainGroups, hplain, distinct_plainGroups]
      exact hdistinct
    obtain ⟨hanswers, hplainly⟩ := run_of_plainly (s := s) hplain steps
    have hbindings := congrArg Config.bindings hplainly
    rw [plainly, bindings_rewrap, plainly, bindings_rewrap] at hbindings
    have hconfig : (((fresh s groups₂).withHashOrder order).run steps).1 = _ :=
      config_run_withHashOrder _ steps
    refine ⟨(fresh s groups₂).withHashOrder order, build_eq_ok_iff.mpr ⟨hdistinct₂, rfl⟩,
      ?_, ?_, ?_, ?_, ?_⟩
    · -- Held plainly, both configurations are the same, with the fields of each.
      have hsame : (fresh s groups₂).plainly = (fresh s groups).plainly := by
        rw [plainly_fresh, plainly_fresh, hplain]
      have hfields₂ := ((Collects.fresh s groups₂).rewrap fun _ => .plain).groups
      have hfields := (hfresh.rewrap fun _ => .plain).groups
      exact (Collects.fresh s groups₂).groups.trans (hfields₂.symm.trans
        ((congrArg (fun c => c.groups.map fun g => (g.name, g.fields)) hsame).trans hfields))
    · rw [hconfig]
      exact congrArg (withHashOrder · order) hplainly
    · rw [hconfig]
      exact hbindings
    · rintro rfl
      exact hanswers
    · intro i step hi hsnapshot hlog
      rw [answers_withHashOrder _ hi hsnapshot hlog, hanswers]

/-- The sample groups, with a structure that is absent at first, and the same held plainly. -/
theorem walks_agree_sample :
    let s := sampleSettings (Environment.ofPairs [("PORT", "9000")])
    let c := fresh s sampleGroups
    let steps := [(sampleWorld, Operation.snapshot), (sampleWorld, Operation.load)]
    (build s sampleGroups).result = .ok c ∧
      (c.run steps).1.snapshot.2.groups.map (fun g => (g.name, g.values.map Prod.fst)) =
        [("server", ["PORT", "TLS_CERT"]), ("worker", ["KEYS", "TOKEN"])] ∧
      (c.run steps).1.usage =
        "CONFIG    ENV         TYPE      DEFAULT    ON GCE\n" ++
          "server    PORT        u16       8080\n" ++
          "server    TLS_CERT    String               /etc/cert.pem\n" ++
          "worker    KEYS        Tally\n" ++
          "worker    TOKEN       String\n" ∧
      ∃ c₂, (build s (plainGroups sampleGroups)).result = .ok c₂ ∧
        (c₂.run steps).2 = (c.run steps).2 := by
  intro s c steps
  have hbuild : (build s sampleGroups).result = .ok c := build_eq_ok_iff.mpr ⟨by decide, rfl⟩
  obtain ⟨-, -, -, hkeys, husage, -, hwrapped⟩ := walks_agree hbuild steps
  obtain ⟨c₂, hbuild₂, -, -, -, hanswers, -⟩ := hwrapped (plainGroups sampleGroups) s.hashOrder rfl
  exact ⟨hbuild, hkeys.trans (by decide), husage.trans (by decide +kernel), c₂, hbuild₂,
    hanswers rfl⟩

end Config

end ConfigBinding
