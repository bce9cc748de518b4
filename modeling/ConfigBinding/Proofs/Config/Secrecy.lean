import ConfigBinding.Launch
import ConfigBinding.Proofs.Config.HashOrder
import ConfigBinding.Proofs.Resolution.Agreement

/-!
# What diagnostics tell of secrets

Two loads of one configuration from environments that differ in the values of hidden keys only. If
both succeed, they report the same events and come to groups that differ in leaves of hidden keys at
most (`load_sameExcept`). A snapshot shows such a leaf only where its field is no secret, so a group
all of whose fields of hidden keys are secrets is shown in the same way
(`Group.display_sameExcept`).

No two runs need agree on the orders in which their hashed maps keep the entries. What is shown is
therefore compared in any one order, and in two orders where these make no difference.
-/

set_option autoImplicit false

namespace ConfigBinding

/-- The groups have the same name and fields, and leaves that are the same but for hidden keys. -/
structure Group.SameExcept (hidden : String → Prop) (scope : String) (g₁ g₂ : Group) : Prop where
  name : g₁.name = g₂.name
  fields : g₁.fields = g₂.fields
  bindings : List.Forall₂ (Binding.SameExcept hidden) (g₁.schema.bindings scope)
    (g₂.schema.bindings scope)

/-- Lists whose members are related in turn have the same images, where related members have. -/
theorem map_eq_of_forall₂ {α β : Type*} {R : α → α → Prop} {f f' : α → β} {xs ys : List α}
    (h : List.Forall₂ R xs ys) (hf : ∀ x ∈ xs, ∀ y, R x y → f x = f' y) :
    xs.map f = ys.map f' := by
  induction h with
  | nil => rfl
  | @cons x y xs ys hxy _ ih =>
    obtain ⟨hx, hxs⟩ := List.forall_mem_cons.mp hf
    rw [List.map_cons, List.map_cons, hx y hxy, ih hxs]

theorem exists_getElem?_of_forall₂ {α β : Type*} {R : α → β → Prop} {xs : List α} {ys : List β}
    (h : List.Forall₂ R xs ys) {i : Nat} {x : α} (hx : xs[i]? = some x) :
    ∃ y, ys[i]? = some y ∧ R x y := by
  induction h generalizing i with
  | nil => cases hx
  | cons hxy _ ih =>
    cases i with
    | zero =>
      obtain rfl := Option.some.inj hx
      exact ⟨_, rfl, hxy⟩
    | succ i => exact ih hx

variable {hidden : String → Prop}

/-- A leaf is shown the same if its field is a secret or its key is not hidden: in one order of
hashed maps, and in any two that make no difference to it. -/
theorem Binding.SameExcept.shown {x y : Binding} (h : Binding.SameExcept hidden x y)
    (hs : hidden x.field.key → x.field.isSecret = true) {order order' : EntryOrder}
    (ho : order = order' ∨ (x.field.isSecret = false → x.leaf.OrderFree)) :
    Schema.shownValue order x.field x.leaf = Schema.shownValue order' y.field y.leaf := by
  rw [← h.field]
  unfold Schema.shownValue
  cases hsecret : x.field.isSecret with
  | true => rfl
  | false =>
    have hleaf : x.leaf = y.leaf := h.leaf fun hk => by rw [hs hk] at hsecret; cases hsecret
    rw [← hleaf]
    obtain rfl | hfree := ho
    · rfl
    · exact hfree hsecret order order'

/-- A group is shown the same if its fields of hidden keys are secrets. -/
theorem Group.display_sameExcept {scope : String} {g₁ g₂ : Group}
    {orders₁ orders₂ : String → EntryOrder}
    (h : Group.SameExcept hidden scope g₁ g₂) (hg : g₁.Coherent scope)
    (hs : ∀ f ∈ g₁.fields, hidden f.key → f.isSecret = true)
    (ho : orders₁ = orders₂ ∨ g₁.OrderFree scope) :
    (g₁.display orders₁ scope).2 = (g₂.display orders₂ scope).2 := by
  simp only [Group.display, Schema.display_eq, h.name]
  congr 1
  refine map_eq_of_forall₂ h.bindings fun x hx y hxy => ?_
  have hfield : x.field ∈ g₁.fields := by
    rw [hg]
    exact List.mem_map_of_mem hx
  have hshown := hxy.shown (hs x.field hfield) (ho.imp (congrFun · x.field.key) (· x hx))
  rw [← hxy.field] at hshown ⊢
  rw [hshown]

/-! ## Errors -/

/-- The error tells of a text that the field's leaf refused. -/
structure ParseError.IsOf (p : ParseError) (f : Field) : Prop where
  key : p.key = f.key
  field : p.field = f.name
  typeName : p.typeName = f.typeName
  secret : p.secret = f.isSecret

/-- All that an error says: its message, its parts by name, and its causes. -/
def ParseError.texts (p : ParseError) : String × String × List String :=
  (p.message, p.detail, p.causes)

/-- All that an error says: its message, its parts by name, and its causes. -/
def ConfigError.texts (e : ConfigError) : String × Option String × List String :=
  (e.message, e.detail?, e.causes)

/-- All that an error says: its message, its parts by name, and its causes. -/
def LaunchError.texts (e : LaunchError) : String × Option String × List String :=
  (e.message, e.detail?, e.causes)

namespace Config

/-! ## Two loads -/

/-- The configuration with an environment of its own. -/
def withEnvironment (c : Config) (e : Environment) : Config :=
  { c with environment := some e }

/-- The configurations have the same scope, stage and groups, but for leaves of hidden keys. -/
structure SameExcept (hidden : String → Prop) (c₁ c₂ : Config) : Prop where
  scope : c₁.scope = c₂.scope
  stage : c₁.stage = c₂.stage
  groups : List.Forall₂ (Group.SameExcept hidden c₁.scope) c₁.groups c₂.groups
  coherent : ∀ g ∈ c₁.groups, g.Coherent c₁.scope

/-- Groups that are resolved without a failure differ in leaves of hidden keys at most. -/
theorem resolveGroups_sameExcept {r₁ r₂ : Resolver} {n : Nat} {scope : String} {gs : List Group}
    {s₁ s₂ : Resolving} (h : Environment.SameExcept hidden r₁.environment r₂.environment)
    (hp : r₁.platform = r₂.platform) (hf₁ : s₁.probe.Fits r₁.platform n)
    (hf₂ : s₂.probe.Fits r₂.platform n) (he : s₁.events = s₂.events)
    (hok₁ : (resolveGroups r₁ scope gs s₁).2.2 = none)
    (hok₂ : (resolveGroups r₂ scope gs s₂).2.2 = none) :
    (resolveGroups r₁ scope gs s₁).2.1.events = (resolveGroups r₂ scope gs s₂).2.1.events ∧
      List.Forall₂ (Group.SameExcept hidden scope) (resolveGroups r₁ scope gs s₁).1
        (resolveGroups r₂ scope gs s₂).1 := by
  induction gs generalizing s₁ s₂ with
  | nil => exact ⟨he, .nil⟩
  | cons g gs ih =>
    have hseen₁ := Schema.walk_seen r₁.type_visit scope g.schema s₁
    have hseen₂ := Schema.walk_seen r₂.type_visit scope g.schema s₂
    unfold resolveGroups at hok₁ hok₂ ⊢
    cases hw₁ : (g.schema.walk r₁.visit scope s₁).failure with
    | some e => simp only [hw₁] at hok₁; cases hok₁
    | none =>
      cases hw₂ : (g.schema.walk r₂.visit scope s₂).failure with
      | some e => simp only [hw₂] at hok₂; cases hok₂
      | none =>
        simp only [hw₁] at hok₁ ⊢
        simp only [hw₂] at hok₂ ⊢
        have hpass := Resolver.pass_sameExcept h hp hf₁ hf₂ he
          (by rw [← hseen₁]; exact hw₁) (by rw [← hseen₂]; exact hw₂)
        have hfits₁ := (Resolver.pass_visit hf₁ (g.schema.bindings scope)).1
        have hfits₂ := (Resolver.pass_visit hf₂ (g.schema.bindings scope)).1
        rw [← hseen₁] at hpass hfits₁
        rw [← hseen₂] at hpass hfits₂
        obtain ⟨hevents, hbindings⟩ := hpass
        obtain ⟨hrest, hgroups⟩ := ih hfits₁ hfits₂ hevents hok₁ hok₂
        exact ⟨hrest, .cons ⟨rfl, rfl, hbindings⟩ hgroups⟩

/-- A descriptor is layered in the same way, and reports the same. -/
theorem layered_sameExcept {w : World} {c : Config} {e₁ e₂ out₁ out₂ : Environment}
    (h : Environment.SameExcept hidden e₁ e₂) (h₁ : (c.layered w e₁).result = .ok out₁)
    (h₂ : (c.layered w e₂).result = .ok out₂) :
    Environment.SameExcept hidden out₁ out₂ ∧
      (c.layered w e₁).events = (c.layered w e₂).events := by
  obtain ⟨hpath, rfl⟩ | ⟨path, d, hpath, hd, hv, rfl⟩ := layered_eq_ok_iff.mp h₁
  · rw [layered_of_none hpath] at h₁ h₂ ⊢
    obtain rfl := Except.ok.inj h₂
    exact ⟨h, by rw [layered_of_none hpath]⟩
  · rw [layered_of_some hpath hd hv] at h₂ ⊢
    obtain rfl := Except.ok.inj h₂
    -- What the descriptor adds hangs on which keys there are, and not on their values.
    have hcandidates : d.candidates e₁ = d.candidates e₂ := by
      simp only [Descriptor.candidates, h.contains]
    have hoverridden : d.overridden e₁ = d.overridden e₂ := by
      simp only [Descriptor.overridden, h.contains]
    obtain ⟨hout, hcount⟩ := h.layer (d.candidates e₁)
    rw [layered_of_some hpath hd hv, ← hcandidates, ← hoverridden, hcount]
    exact ⟨hout, rfl⟩

/-- Two loads that succeed report the same events and come to configurations that differ in leaves
of hidden keys at most. -/
theorem load_sameExcept {w : World} {c : Config} {e₁ e₂ : Environment}
    (hs : c.stage = .fieldsCollected) (hc : ∀ g ∈ c.groups, g.Coherent c.scope)
    (h : Environment.SameExcept hidden e₁ e₂)
    (hok₁ : ((c.withEnvironment e₁).load w).outcome = .ok ())
    (hok₂ : ((c.withEnvironment e₂).load w).outcome = .ok ()) :
    ((c.withEnvironment e₁).load w).events = ((c.withEnvironment e₂).load w).events ∧
      SameExcept hidden ((c.withEnvironment e₁).load w).config
        ((c.withEnvironment e₂).load w).config := by
  have hs₁ : (c.withEnvironment e₁).stage = .fieldsCollected := hs
  have hs₂ : (c.withEnvironment e₂).stage = .fieldsCollected := hs
  obtain ⟨out₁, hl₁, hf₁⟩ := (load_eq_ok_iff hs₁).mp hok₁
  obtain ⟨out₂, hl₂, hf₂⟩ := (load_eq_ok_iff hs₂).mp hok₂
  obtain ⟨hout, hreported⟩ := layered_sameExcept (w := w) (c := c) h hl₁ hl₂
  obtain ⟨hevents, hgroups⟩ : (resolved w (c.withEnvironment e₁) out₁).2.1.events =
        (resolved w (c.withEnvironment e₂) out₂).2.1.events ∧
      List.Forall₂ (Group.SameExcept hidden c.scope) (resolved w (c.withEnvironment e₁) out₁).1
        (resolved w (c.withEnvironment e₂) out₂).1 :=
    resolveGroups_sameExcept hout rfl .fresh .fresh rfl hf₁ hf₂
  rw [load_of_layered hs₁ hl₁, load_of_layered hs₂ hl₂]
  have hstage :
      ((c.withEnvironment e₁).afterResolving out₁
        (resolved w (c.withEnvironment e₁) out₁)).stage =
      ((c.withEnvironment e₂).afterResolving out₂
        (resolved w (c.withEnvironment e₂) out₂)).stage := by
    simp only [afterResolving, hf₁, hf₂]
  refine ⟨?_, rfl, hstage, hgroups, resolveGroups_coherent hc c.beforeResolving⟩
  rw [hf₁, hf₂]
  change (c.layered w e₁).events ++ _ ++ _ = (c.layered w e₂).events ++ _ ++ _
  rw [hreported]
  exact congrArg (_ ++ · ++ _) hevents

/-- The same of two configurations that are built alike but for the environments, with any orders of
hashed maps. -/
theorem load_fresh_sameExcept {w : World} {s : Settings} {groups : List (String × Schema Leaf)}
    {e₁ e₂ : Environment} {order₁ order₂ : HashOrder} (h : Environment.SameExcept hidden e₁ e₂) :
    let l₁ := (fresh { s with environment := some e₁, hashOrder := order₁ } groups).load w
    let l₂ := (fresh { s with environment := some e₂, hashOrder := order₂ } groups).load w
    l₁.outcome = .ok () → l₂.outcome = .ok () →
      l₁.events = l₂.events ∧ SameExcept hidden l₁.config l₂.config := by
  intro l₁ l₂ hok₁ hok₂
  have hl₁ : l₁ = _ := load_withHashOrder ((fresh s groups).withEnvironment e₁)
  have hl₂ : l₂ = _ := load_withHashOrder ((fresh s groups).withEnvironment e₂)
  rw [hl₁] at hok₁ ⊢
  rw [hl₂] at hok₂ ⊢
  obtain ⟨hevents, hsame⟩ := load_sameExcept rfl (coherent_fresh s groups) h hok₁ hok₂
  exact ⟨hevents, hsame.scope, hsame.stage, hsame.groups, hsame.coherent⟩

/-! ## Views -/

theorem getElem?_snapshot (c : Config) (i : Nat) :
    c.snapshot.2.groups[i]? =
      c.groups[i]?.map fun g => (g.display (c.hashOrder c.stage i) c.scope).2 := by
  simp only [snapshot, map_mapIdx, List.getElem?_mapIdx]

theorem logResolved_snd (c : Config) :
    c.logResolved.2 = c.snapshot.2.groups.map fun g => .resolved g.name g.oneLine := rfl

namespace SameExcept

variable {c₁ c₂ : Config} {order₁ order₂ : HashOrder}

theorem bindings (h : SameExcept hidden c₁ c₂) :
    List.Forall₂ (Binding.SameExcept hidden) c₁.bindings c₂.bindings := by
  rw [Config.bindings, Config.bindings, ← h.scope]
  exact List.rel_flatMap h.groups fun _ _ hg => hg.bindings

/-- A group all of whose fields of hidden keys are secrets is shown and logged the same. -/
theorem shown (h : SameExcept hidden c₁ c₂) {i : Nat} {g : Group} (hg : c₁.groups[i]? = some g)
    (hs : ∀ f ∈ g.fields, hidden f.key → f.isSecret = true)
    (ho : order₁ = order₂ ∨ g.OrderFree c₁.scope) :
    (c₁.withHashOrder order₁).snapshot.2.groups[i]? =
        (c₂.withHashOrder order₂).snapshot.2.groups[i]? ∧
      (c₁.withHashOrder order₁).logResolved.2[i]? =
        (c₂.withHashOrder order₂).logResolved.2[i]? := by
  obtain ⟨g', hg', hgg'⟩ := exists_getElem?_of_forall₂ h.groups hg
  have horders : order₁ c₁.stage i = order₂ c₂.stage i ∨ g.OrderFree c₁.scope :=
    ho.imp_left fun horder => by rw [horder, h.stage]
  have hshown : (c₁.withHashOrder order₁).snapshot.2.groups[i]? =
      (c₂.withHashOrder order₂).snapshot.2.groups[i]? := by
    simp only [getElem?_snapshot, withHashOrder, hg, hg', ← h.scope, Option.map_some]
    exact congrArg some
      (Group.display_sameExcept hgg' (h.coherent g (List.mem_of_getElem? hg)) hs horders)
  refine ⟨hshown, ?_⟩
  rw [logResolved_snd, logResolved_snd, List.getElem?_map, List.getElem?_map, hshown]

/-- If all fields of hidden keys are secrets, everything is shown and logged the same. -/
theorem snapshot (h : SameExcept hidden c₁ c₂)
    (hs : ∀ f ∈ c₁.fields, hidden f.key → f.isSecret = true)
    (ho : order₁ = order₂ ∨ c₁.OrderFree) :
    (c₁.withHashOrder order₁).snapshot.2 = (c₂.withHashOrder order₂).snapshot.2 ∧
      (c₁.withHashOrder order₁).logResolved.2 = (c₂.withHashOrder order₂).logResolved.2 := by
  have hgroups : (c₁.withHashOrder order₁).snapshot.2.groups =
      (c₂.withHashOrder order₂).snapshot.2.groups := by
    refine List.ext_getElem? fun i => ?_
    cases hg : c₁.groups[i]? with
    | none =>
      have hg' : c₂.groups[i]? = none := by
        rw [List.getElem?_eq_none_iff] at hg ⊢
        exact h.groups.length_eq ▸ hg
      rw [getElem?_snapshot, getElem?_snapshot, withHashOrder, withHashOrder, hg, hg']
      rfl
    | some g =>
      have hmem := List.mem_of_getElem? hg
      refine (h.shown hg (fun f hf => hs f ?_) (ho.imp_right fun hfree => hfree g hmem)).1
      exact List.mem_flatMap.mpr ⟨g, hmem, hf⟩
  exact ⟨congrArg Snapshot.mk hgroups, by rw [logResolved_snd, logResolved_snd, hgroups]⟩

end SameExcept

/-! ## Secrets -/

/-- Every field of a key is tagged as a secret. -/
def OnlySecrets (c : Config) (key : String) : Prop :=
  ∀ f ∈ c.fields, f.key = key → f.isSecret = true

/-- The orders in which every hashed map keeps its entries as they came. -/
def asTheyCame : HashOrder := fun _ _ _ => ⟨fun _ texts => texts, fun _ texts => .refl texts⟩

end Config

end ConfigBinding
