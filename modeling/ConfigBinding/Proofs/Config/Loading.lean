import ConfigBinding.Leaf.Catalog
import ConfigBinding.Proofs.Config.Building
import ConfigBinding.Proofs.Config.GroupWalks
import ConfigBinding.Proofs.Descriptor.Faults
import ConfigBinding.Proofs.Resolution.Supply

/-!
# What a load comes to

A load resolves group after group with one probe; over all groups that is one pass over the leaves
of the configuration (`resolveGroups_seen`). So what the whole load comes to follows from the supply
it has, once its environment is layered (`load_of_layered`).
-/

set_option autoImplicit false

namespace ConfigBinding.Config

/-! ## Groups in turn -/

/-- The resolution of groups is one pass over all their leaves. -/
theorem resolveGroups_seen (r : Resolver) (scope : String) (gs : List Group) (s : Resolving) :
    seen scope (resolveGroups r scope gs s) =
      Schema.pass r.visit (gs.flatMap fun g => g.schema.bindings scope) s := by
  rw [resolveGroups_eq_walkGroups]
  exact walkGroups_seen r.type_visit scope gs s

/-- The resolution of groups keeps their names and their collected fields. -/
theorem resolveGroups_names (r : Resolver) (scope : String) (gs : List Group) (s : Resolving) :
    (resolveGroups r scope gs s).1.map (fun g => (g.name, g.fields)) =
      gs.map fun g => (g.name, g.fields) := by
  induction gs generalizing s with
  | nil => rfl
  | cons g gs ih =>
    unfold resolveGroups
    cases hf : (g.schema.walk r.visit scope s).failure with
    | some e => simp only [hf, List.map_cons]
    | none => simp only [hf, List.map_cons, ih]

/-- The resolution of groups keeps their collected fields those of their leaves. -/
theorem resolveGroups_coherent {r : Resolver} {scope : String} {gs : List Group}
    (h : ∀ g ∈ gs, g.Coherent scope) (s : Resolving) :
    ∀ g ∈ (resolveGroups r scope gs s).1, g.Coherent scope := by
  induction gs generalizing s with
  | nil => exact List.forall_mem_nil _
  | cons g gs ih =>
    obtain ⟨hg, hgs⟩ := List.forall_mem_cons.mp h
    have hwalked :
        Group.Coherent scope { g with schema := (g.schema.walk r.visit scope s).schema } := by
      have hseen := congrArg Schema.Pass.bindings (Schema.walk_seen r.type_visit scope g.schema s)
      simp only [Schema.Walk.seen] at hseen
      rw [Group.Coherent, hseen, Schema.map_field_pass]
      exact hg
    unfold resolveGroups
    cases hf : (g.schema.walk r.visit scope s).failure with
    | some e => simp only [hf]; exact List.forall_mem_cons.mpr ⟨hwalked, hgs⟩
    | none => simp only [hf]; exact List.forall_mem_cons.mpr ⟨hwalked, ih hgs _⟩

/-! ## The layered environment -/

section
variable {w : World} {c : Config} {e : Environment} {path : Path} {d : Descriptor}

theorem layered_of_none (h : c.descriptor = none) : c.layered w e = ⟨.ok e, []⟩ := by
  simp only [layered, h]

/-- A descriptor that decodes and whose secrets pass is layered under the environment. -/
theorem layered_of_some (hpath : c.descriptor = some path)
    (hd : (Descriptor.load w.files path).result = .ok d)
    (hv : d.validateSecrets c.fields = .ok ()) :
    c.layered w e =
      ⟨.ok (e.layer (d.candidates e)).1,
        (Descriptor.load w.files path).events ++ d.overridden e ++
          [.environmentLayered path (e.layer (d.candidates e)).2]⟩ := by
  simp only [layered, hpath, hd, hv]

/-- An environment is layered if there is no descriptor, and else only under one that decodes and
whose secrets pass. -/
theorem layered_eq_ok_iff {out : Environment} :
    (c.layered w e).result = .ok out ↔
      (c.descriptor = none ∧ out = e) ∨
        ∃ path d, c.descriptor = some path ∧ (Descriptor.load w.files path).result = .ok d ∧
          d.validateSecrets c.fields = .ok () ∧ out = (e.layer (d.candidates e)).1 := by
  cases hpath : c.descriptor with
  | none => simp [layered_of_none hpath, eq_comm]
  | some path =>
    cases hd : (Descriptor.load w.files path).result with
    | error error => simp [layered, hpath, hd]
    | ok d =>
      cases hv : d.validateSecrets c.fields with
      | error error => simp [layered, hpath, hd, hv]
      | ok _ => simp [layered_of_some hpath hd hv, hd, hv, eq_comm]

/-- What keeps a load from using its descriptor: that is not read or not decoded, or a secret entry
of it does not pass, the first that does not. -/
inductive Spoiled (w : World) (c : Config) : ConfigError → Prop
  | reading {path : Path} {error : ConfigError} : c.descriptor = some path →
      Descriptor.Fault w.files path error → Spoiled w c error
  | secret {path : Path} {d : Descriptor} {before after : List Entry} {entry : Entry}
      {error : ConfigError} : c.descriptor = some path →
      (Descriptor.load w.files path).result = .ok d → d.entries = before ++ entry :: after →
      entry.isSecret = true → Descriptor.SecretFault c.fields entry error →
      (∀ x ∈ before, x.isSecret = true → ∃ f ∈ c.fields, f.key = x.name ∧ f.isSecret = true) →
      Spoiled w c error

/-- No environment is layered exactly if the descriptor cannot be used. -/
theorem layered_eq_error_iff {error : ConfigError} :
    (c.layered w e).result = .error error ↔ c.Spoiled w error := by
  constructor
  · intro h
    cases hpath : c.descriptor with
    | none => rw [layered_of_none hpath] at h; cases h
    | some path =>
      cases hd : (Descriptor.load w.files path).result with
      | error cause =>
        simp only [layered, hpath, hd, Except.error.injEq] at h
        exact h ▸ .reading hpath (Descriptor.load_eq_error_iff.mp hd)
      | ok d =>
        cases hv : d.validateSecrets c.fields with
        | error cause =>
          simp only [layered, hpath, hd, hv, Except.error.injEq] at h
          obtain ⟨before, entry, after, hentries, ⟨hsecret, hfault⟩, hbefore⟩ :=
            Descriptor.validateSecrets_eq_error_iff.mp hv
          exact h ▸ .secret hpath hd hentries hsecret hfault hbefore
        | ok _ => rw [layered_of_some hpath hd hv] at h; cases h
  · intro h
    cases h with
    | reading hpath hfault =>
      simp only [layered, hpath, Descriptor.load_eq_error_iff.mpr hfault]
    | secret hpath hd hentries hsecret hfault hbefore =>
      have hv := Descriptor.validateSecrets_eq_error_iff.mpr
        ⟨_, _, _, hentries, ⟨hsecret, hfault⟩, hbefore⟩
      simp only [layered, hpath, hd, hv]

theorem Spoiled.isOfDescriptor {error : ConfigError} (h : c.Spoiled w error) :
    error.isOfDescriptor = true := by
  cases h with
  | reading _ hfault => exact hfault.isOfDescriptor
  | secret _ _ _ _ hfault _ => exact hfault.isOfDescriptor

end

/-! ## The load -/

/-- The state of a resolution that no field has been resolved in. -/
def beforeResolving (c : Config) : Resolving :=
  ⟨⟨c.asked, none⟩, []⟩

/-- The resolution of a configuration's groups against an environment. -/
def resolved (w : World) (c : Config) (e : Environment) :
    List Group × Resolving × Option ConfigError :=
  resolveGroups (c.resolver w e) c.scope c.groups c.beforeResolving

theorem resolved_eq_walkGroups (w : World) (c : Config) (e : Environment) :
    c.resolved w e = walkGroups (c.resolver w e).visit c.scope c.groups c.beforeResolving :=
  resolveGroups_eq_walkGroups ..

/-- What decides the values of a configuration that is resolved against an environment. -/
def supply (w : World) (c : Config) (e : Environment) : Supply :=
  ⟨e, c.platform.getD w.platform c.asked, c.optionalSecrets⟩

/-- The configuration after its groups were resolved. -/
def afterResolving (c : Config) (e : Environment)
    (out : List Group × Resolving × Option ConfigError) : Config where
  groups := out.1
  scope := c.scope
  descriptor := c.descriptor
  optionalSecrets := c.optionalSecrets
  environment := some e
  platform := c.platform
  hashOrder := c.hashOrder
  asked := out.2.1.probe.asked
  stage := if out.2.2.isSome then .failed else .fieldsResolved

variable {w : World} {c : Config}

/-- A load whose descriptor cannot be used resolves nothing. -/
theorem load_of_layered_error {e : ConfigError} (hs : c.stage = .fieldsCollected)
    (h : (c.layered w (c.startEnvironment w)).result = .error e) :
    c.load w =
      ⟨{ c with environment := none, stage := .failed }, .error e,
        (c.layered w (c.startEnvironment w)).events⟩ := by
  simp only [load, hs, ↓reduceIte, loadFresh, h]

/-- A load with a layered environment is the resolution of the groups against it. -/
theorem load_of_layered {e : Environment} (hs : c.stage = .fieldsCollected)
    (h : (c.layered w (c.startEnvironment w)).result = .ok e) :
    c.load w =
      ⟨c.afterResolving e (c.resolved w e),
        match (c.resolved w e).2.2 with
        | some error => .error error
        | none => .ok (),
        (c.layered w (c.startEnvironment w)).events ++ (c.resolved w e).2.1.events ++
          match (c.resolved w e).2.2 with
          | some _ => []
          | none => [.loaded c.groups.length]⟩ := by
  have hlength : (c.resolved w e).1.length = c.groups.length := by
    have hnames := congrArg List.length
      (resolveGroups_names (c.resolver w e) c.scope c.groups c.beforeResolving)
    rwa [List.length_map, List.length_map] at hnames
  rw [← hlength]
  simp only [load, hs, ↓reduceIte, loadFresh, h, resolved, beforeResolving]
  generalize resolveGroups (c.resolver w e) c.scope c.groups ⟨⟨c.asked, none⟩, []⟩ = out
  obtain ⟨groups, s, failure⟩ := out
  cases failure with
  | some error => simp only [afterResolving, Option.isSome_some, ↓reduceIte, List.append_nil]
  | none => rfl

/-- A configuration that was loaded, or failed to, stays as it is. -/
theorem load_of_not_fresh (hs : c.stage ≠ .fieldsCollected) :
    c.load w = ⟨c, .error .alreadyLoaded, []⟩ := by
  rw [load, if_neg hs]

/-- What a load can make of a configuration: nothing, one that failed before any field, or one whose
groups were resolved against some environment. -/
theorem config_load_cases (w : World) (c : Config) :
    (c.load w).config = c ∨ (c.load w).config = { c with environment := none, stage := .failed } ∨
      ∃ e, (c.load w).config = c.afterResolving e (c.resolved w e) := by
  by_cases hs : c.stage = .fieldsCollected
  · cases hl : (c.layered w (c.startEnvironment w)).result with
    | error error => exact .inr (.inl (by rw [load_of_layered_error hs hl]))
    | ok e => exact .inr (.inr ⟨e, by rw [load_of_layered hs hl]⟩)
  · exact .inl (by rw [load_of_not_fresh hs])

/-- A load keeps the scope, and the names and the collected fields of the groups. -/
theorem load_keeps (w : World) (c : Config) :
    (c.load w).config.scope = c.scope ∧
      (c.load w).config.groups.map (fun g => (g.name, g.fields)) =
        c.groups.map fun g => (g.name, g.fields) := by
  obtain h | h | ⟨e, h⟩ := config_load_cases w c
  · rw [h]; exact ⟨rfl, rfl⟩
  · rw [h]; exact ⟨rfl, rfl⟩
  · rw [h]; exact ⟨rfl, resolveGroups_names ..⟩

/-- A load keeps the collected fields those of the leaves. -/
theorem coherent_load (h : ∀ g ∈ c.groups, g.Coherent c.scope) :
    ∀ g ∈ (c.load w).config.groups, g.Coherent (c.load w).config.scope := by
  obtain hc | hc | ⟨e, hc⟩ := config_load_cases w c
  · rw [hc]; exact h
  · rw [hc]; exact h
  · rw [hc]; exact resolveGroups_coherent h c.beforeResolving

/-- A load keeps a group in its place, with its name and its collected fields. -/
theorem getElem?_groups_load {i : Nat} {g : Group} (h : c.groups[i]? = some g) :
    ∃ g', (c.load w).config.groups[i]? = some g' ∧ g'.name = g.name ∧ g'.fields = g.fields := by
  have hloaded := congrArg (·[i]?) (load_keeps w c).2
  simp only [List.getElem?_map, h, Option.map_some, Option.map_eq_some_iff] at hloaded
  obtain ⟨g', hg', hsame⟩ := hloaded
  exact ⟨g', hg', congrArg Prod.fst hsame, congrArg Prod.snd hsame⟩

/-- A load keeps the collected fields. -/
theorem fields_load (w : World) (c : Config) : (c.load w).config.fields = c.fields := by
  have h := congrArg (List.flatMap Prod.snd) (load_keeps w c).2
  rwa [List.flatMap_map, List.flatMap_map] at h

/-- A load succeeds exactly if an environment is layered and every group is resolved against it. -/
theorem load_eq_ok_iff (hs : c.stage = .fieldsCollected) :
    (c.load w).outcome = .ok () ↔
      ∃ e, (c.layered w (c.startEnvironment w)).result = .ok e ∧ (c.resolved w e).2.2 = none := by
  cases hl : (c.layered w (c.startEnvironment w)).result with
  | error error => simp [load_of_layered_error hs hl]
  | ok e =>
    rw [load_of_layered hs hl]
    cases hf : (c.resolved w e).2.2 <;> simp [hf]

/-- What the resolution of a configuration's groups comes to, from the state before it. -/
theorem resolved_outcome (w : World) (c : Config) (e : Environment) :
    (c.resolved w e).2.1.probe.Fits (c.platform.getD w.platform) c.asked ∧
      (c.supply w e).Outcome c.bindings (c.afterResolving e (c.resolved w e)).bindings
        (c.resolved w e).2.2 := by
  have hpass := resolveGroups_seen (c.resolver w e) c.scope c.groups c.beforeResolving
  have h := Resolver.pass_visit (r := c.resolver w e) (s := c.beforeResolving) .fresh c.bindings
  rw [bindings, ← hpass] at h
  exact h

/-- **What a load comes to.** With an environment layered, a load succeeds exactly if every leaf
accepts the text that wins for it or is excused. Then every leaf is settled. Otherwise the first
leaf in the order of registration and declaration that does not accept its text ends the load with
its error: those before it are settled, and those behind it are as they were. -/
theorem load_settles_or_breaks {w : World} {s : Settings} {groups : List (String × Schema Leaf)}
    {c : Config} {e : Environment} (hbuild : (build s groups).result = .ok c)
    (hlayered : (c.layered w (c.startEnvironment w)).result = .ok e) :
    let t : Supply := ⟨e, s.platform.getD w.platform 0, s.optionalSecrets⟩
    let before := groups.flatMap fun g => g.2.bindings s.scope
    let after := (c.load w).config.bindings
    ((c.load w).outcome = .ok () ↔ ∀ x ∈ before, t.Accepts x) ∧
      ((c.load w).outcome = .ok () → List.Forall₂ t.Settles before after) ∧
      ∀ error, (c.load w).outcome = .error error →
        ∃ done x rest settled l,
          before = done ++ x :: rest ∧ after = settled ++ ⟨x.field, l⟩ :: rest ∧
            (∀ y ∈ done, t.Accepts y) ∧ List.Forall₂ t.Settles done settled ∧
            t.Breaks x error l := by
  obtain rfl := eq_fresh_of_build hbuild
  have hload := load_of_layered (w := w) (c := fresh s groups) rfl hlayered
  obtain ⟨-, hout⟩ := resolved_outcome w (fresh s groups) e
  rw [bindings_fresh] at hout
  intro t before after
  have hafter : after =
      ((fresh s groups).afterResolving e ((fresh s groups).resolved w e)).bindings := by
    simp only [after, hload]
  rw [hafter, hload]
  cases hf : ((fresh s groups).resolved w e).2.2 with
  | none =>
    rw [hf] at hout
    refine ⟨⟨fun _ => hout.1, fun _ => rfl⟩, fun _ => hout.2, ?_⟩
    rintro error ⟨⟩
  | some error =>
    rw [hf] at hout
    refine ⟨⟨?_, fun hall => absurd hall hout.not_accepts⟩, ?_, ?_⟩
    · rintro ⟨⟩
    · rintro ⟨⟩
    · rintro _ ⟨⟩
      exact hout

/-- A manifest that sets one key and refers to a secret for another. -/
def sampleManifest : String :=
  "\x7bkind: Service, spec: \x7btemplate: \x7bspec: \x7bcontainers: [\x7benv: [" ++
    "\x7bname: KEYS, value: a+b\x7d, " ++
    "\x7bname: TOKEN, valueFrom: \x7bsecretKeyRef: \x7bname: vault, key: token\x7d\x7d\x7d" ++
    "]\x7d]\x7d\x7d\x7d\x7d"

/-- A world without variables in which every file holds the manifest. -/
def sampleWorld : World :=
  ⟨[], fun _ => .ok (Text.bytes sampleManifest)⟩

/-- What the manifest decodes to. -/
def sampleDescriptor : Descriptor where
  path := ⟨"service.yaml"⟩
  kind := .service
  entries := [Entry.literal "KEYS" "a+b", Entry.secretRef "TOKEN" "vault" "token"]

theorem load_sampleManifest :
    (Descriptor.load sampleWorld.files ⟨"service.yaml"⟩).result = .ok sampleDescriptor := by
  rw [Descriptor.load_of_text rfl]
  decide +kernel

/-- The sample descriptor is layered for a configuration that its secrets pass. -/
theorem layered_sample {c : Config} {e : Environment} (hpath : c.descriptor = some ⟨"service.yaml"⟩)
    (hv : sampleDescriptor.validateSecrets c.fields = .ok ()) :
    (c.layered sampleWorld e).result = .ok (e.layer (sampleDescriptor.candidates e)).1 :=
  layered_eq_ok_iff.mpr (.inr ⟨_, sampleDescriptor, hpath, load_sampleManifest, hv, rfl⟩)

/-- A port, an absent structure with a value for the platform, and in a group of their own a list
that grows with every assignment and a secret that is required. -/
def sampleGroups : List (String × Schema Leaf) :=
  [("server",
      .leaf ⟨"port", ⟨[(Tags.defaultKey, "8080")]⟩⟩ (Leaf.new (.kind (.int .u16)))
        (.nested ⟨"tls", Tags.empty⟩ (.optional false)
          (.leaf ⟨"cert", ⟨[(Tags.onPlatformKey, "/etc/cert.pem")]⟩⟩ (Leaf.new (.kind .text)) .nil)
          .nil)),
    ("worker",
      Schema.ofLeaves
        [(⟨"keys", Tags.empty⟩, Leaf.new (.custom CustomType.tally)),
          (⟨"token", ⟨[(Tags.secretKey, "true"), (Tags.requiredKey, "true")]⟩⟩,
            Leaf.new (.kind .text))])]

/-- Settings with a descriptor, on the platform, for a dry run. -/
def sampleSettings (e : Environment) : Settings where
  scope := ""
  descriptor := some ⟨"service.yaml"⟩
  optionalSecrets := true
  environment := some e
  platform := some fun _ => true

theorem load_settles_or_breaks_sample :
    let s := sampleSettings (Environment.ofPairs [("PORT", "9000")])
    let c := fresh s sampleGroups
    ∃ e, (build s sampleGroups).result = .ok c ∧
      (c.layered sampleWorld (c.startEnvironment sampleWorld)).result = .ok e ∧
      ((c.load sampleWorld).outcome = .ok () ↔
        ∀ x ∈ sampleGroups.flatMap fun g => g.2.bindings "",
          (⟨e, true, true⟩ : Supply).Accepts x) := by
  intro s c
  have hbuild : (build s sampleGroups).result = .ok c := build_eq_ok_iff.mpr ⟨by decide, rfl⟩
  have hlayered : (c.layered sampleWorld (c.startEnvironment sampleWorld)).result = .ok _ :=
    layered_sample rfl (by decide +kernel)
  exact ⟨_, hbuild, hlayered, (load_settles_or_breaks hbuild hlayered).1⟩

end ConfigBinding.Config
