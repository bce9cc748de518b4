import ConfigBinding.Proofs.Config.Secrecy

/-!
# What a descriptor means for secrets

A descriptor speaks of a key in two ways.

* A literal supplies every field of its key, if the environment lacks the key. The tag of a secret
  does not keep it out (`taken_from_descriptor_iff`).
* A reference to a secret supplies nothing and is checked: some field of its key is a secret. Others
  of that key need not be, and those are shown; all else that diagnostics tell is the same whatever
  the value of the key (`referenced_value_unseen`).
-/

set_option autoImplicit false

namespace ConfigBinding

namespace Config

/-! ## Literals -/

/-- How a load comes to have a key set to a text by a descriptor: its own has that literal for a key
that the environment lacks, or the environment it starts from was layered under before. -/
inductive SetByDescriptor (w : World) (c : Config) (key text : String) : Prop
  | literal {path : Path} {d : Descriptor} : c.descriptor = some path →
      (Descriptor.load w.files path).result = .ok d →
      (c.startEnvironment w).contains key = false → d.literal? key = some text →
      SetByDescriptor w c key text
  | earlier : (c.startEnvironment w).get? key = some ⟨key, text, .descriptor⟩ →
      SetByDescriptor w c key text

/-- A layered environment has a variable from a descriptor exactly if the load sets it by one. -/
theorem get?_layered_iff {w : World} {c : Config} {e : Environment} {key text : String}
    (h : (c.layered w (c.startEnvironment w)).result = .ok e) :
    e.get? key = some ⟨key, text, .descriptor⟩ ↔ c.SetByDescriptor w key text := by
  obtain ⟨hpath, rfl⟩ | ⟨path, d, hpath, hd, -, rfl⟩ := layered_eq_ok_iff.mp h
  · refine ⟨.earlier, ?_⟩
    rintro (⟨hsome, -, -, -⟩ | hget)
    · rw [hpath] at hsome; cases hsome
    · exact hget
  · rw [Descriptor.get?_layer_candidates]
    constructor
    · intro hget
      cases hstart : (c.startEnvironment w).get? key with
      | some v => rw [hstart] at hget; exact .earlier (hstart.trans hget)
      | none =>
        rw [hstart, Option.none_or, Option.map_eq_some_iff] at hget
        obtain ⟨t, hliteral, heq⟩ := hget
        cases heq
        exact .literal hpath hd (Environment.get?_eq_none_iff.mp hstart) hliteral
    · rintro (⟨hpath', hd', hlacks, hliteral⟩ | hget)
      · rw [hpath] at hpath'
        cases hpath'
        rw [hd] at hd'
        cases hd'
        rw [Environment.get?_eq_none_iff.mpr hlacks, hliteral]; rfl
      · rw [hget]; rfl

/-- A field takes a text from a descriptor exactly if one set the variable of its key to that
text. -/
theorem resolve_eq_descriptor_iff {f : Field} {e : Environment} {b : Bool} {text : String} :
    f.resolve e b = some ⟨text, .environment .descriptor⟩ ↔
      e.get? f.key = some ⟨f.key, text, .descriptor⟩ := by
  unfold Field.resolve Field.candidate
  cases hv : e.get? f.key with
  | some v =>
    have hkey := Environment.key_of_get? hv
    obtain ⟨key, value, origin⟩ := v
    obtain rfl : key = f.key := hkey
    simp
  | none =>
    refine ⟨fun h => ?_, fun h => by cases h⟩
    cases hd : f.default? with
    | some value => simp [hd] at h
    | none => cases hp : f.onPlatform? <;> simp [hd, hp] at h

/-- A configuration that was loaded holds the environment that was layered. -/
theorem environment?_load {w : World} {c : Config} {e : Environment}
    (hs : c.stage = .fieldsCollected)
    (hl : (c.layered w (c.startEnvironment w)).result = .ok e) :
    (c.load w).config.environment? = some e := by
  rw [load_of_layered hs hl]
  cases hf : (c.resolved w e).2.2 <;> simp [afterResolving, environment?, hf]

/-- **Secrets take literals.** When a load has succeeded, a field takes a text from a variable that
a descriptor set exactly if the load has such a text for its key, and its leaf then holds that text:
tags play no part. So no secret takes its value from a descriptor exactly if no descriptor sets the
key of one. -/
theorem taken_from_descriptor_iff {w : World} {s : Settings} {groups : List (String × Schema Leaf)}
    {c : Config} (hbuild : (build s groups).result = .ok c) (hok : (c.load w).outcome = .ok ()) :
    let onPlatform := s.platform.getD w.platform 0
    ∃ e, (c.load w).config.environment? = some e ∧
      (∀ f ∈ c.fields, ∀ text,
        f.resolve e onPlatform = some ⟨text, .environment .descriptor⟩ ↔
          c.SetByDescriptor w f.key text) ∧
      List.Forall₂ (fun x y => y.field = x.field ∧
          ∀ text, c.SetByDescriptor w x.field.key text → x.leaf.assign text = .ok y.leaf)
        c.bindings (c.load w).config.bindings ∧
      ((∀ f ∈ c.fields, f.isSecret = true → ∀ text,
          f.resolve e onPlatform ≠ some ⟨text, .environment .descriptor⟩) ↔
        ∀ f ∈ c.fields, f.isSecret = true → ∀ text, ¬ c.SetByDescriptor w f.key text) := by
  intro onPlatform
  have hs : c.stage = .fieldsCollected := by rw [eq_fresh_of_build hbuild]; rfl
  obtain ⟨e, hl, hf⟩ := (load_eq_ok_iff hs).mp hok
  have htaken : ∀ (f : Field) (text : String),
      f.resolve e onPlatform = some ⟨text, .environment .descriptor⟩ ↔
        c.SetByDescriptor w f.key text := fun f text =>
    resolve_eq_descriptor_iff.trans (get?_layered_iff hl)
  refine ⟨e, environment?_load hs hl, fun f _ => htaken f, ?_, ?_⟩
  · obtain ⟨-, hout⟩ := resolved_outcome w c e
    rw [hf] at hout
    rw [load_of_layered hs hl]
    refine hout.2.imp fun x y hxy => ⟨hxy.1, fun text htext => ?_⟩
    have htext : (c.supply w e).text? x.field = some text := by
      simp only [Supply.text?, supply, (get?_layered_iff hl).mpr htext]
    have hsettled := hxy.2
    rw [htext] at hsettled
    exact hsettled
  · simp only [ne_eq, htaken]

/-- Two secrets: one that the sample descriptor has a literal for, one that it has a reference
for. -/
def secretGroups : List (String × Schema Leaf) :=
  [("worker",
    Schema.ofLeaves
      [(⟨"keys", ⟨[(Tags.secretKey, "true")]⟩⟩, Leaf.new (.kind .text)),
        (⟨"token", ⟨[(Tags.secretKey, "true")]⟩⟩, Leaf.new (.kind .text))])]

/-- The configuration of the two secrets, with the sample descriptor and no variables. -/
def secretConfig : Config :=
  fresh (sampleSettings .empty) secretGroups

theorem build_secretConfig :
    (build (sampleSettings .empty) secretGroups).result = .ok secretConfig :=
  build_eq_ok_iff.mpr ⟨by decide, rfl⟩

theorem layered_secretConfig :
    (secretConfig.layered sampleWorld .empty).result =
      .ok (Environment.empty.layer (sampleDescriptor.candidates .empty)).1 :=
  layered_sample rfl (by decide)

theorem load_secretConfig : (secretConfig.load sampleWorld).outcome = .ok () :=
  (load_eq_ok_iff rfl).mpr ⟨_, layered_secretConfig, by decide⟩

theorem taken_from_descriptor_iff_sample :
    (build (sampleSettings .empty) secretGroups).result = .ok secretConfig ∧
      (secretConfig.load sampleWorld).outcome = .ok () ∧
      ∃ e, (secretConfig.load sampleWorld).config.environment? = some e ∧
        ∀ f ∈ secretConfig.fields, ∀ text,
          f.resolve e true = some ⟨text, .environment .descriptor⟩ ↔
            secretConfig.SetByDescriptor sampleWorld f.key text := by
  refine ⟨build_secretConfig, load_secretConfig, ?_⟩
  obtain ⟨e, he, htaken, -⟩ := taken_from_descriptor_iff build_secretConfig load_secretConfig
  exact ⟨e, he, htaken⟩

/-- A load can succeed although a secret took its value from a literal of the descriptor. -/
theorem secret_takes_literal :
    ¬ ∀ (w : World) (s : Settings) (groups : List (String × Schema Leaf)) (c : Config),
        (build s groups).result = .ok c → (c.load w).outcome = .ok () →
        ∀ e, (c.load w).config.environment? = some e → ∀ f ∈ c.fields, f.isSecret = true →
          ∀ text, f.resolve e (s.platform.getD w.platform 0) ≠
            some ⟨text, .environment .descriptor⟩ := by
  intro h
  have hfield : ⟨"keys", "KEYS", "String", ⟨[(Tags.secretKey, "true")]⟩⟩ ∈ secretConfig.fields := by
    decide +kernel
  refine h sampleWorld _ _ _ build_secretConfig load_secretConfig _
    (environment?_load rfl layered_secretConfig) _ hfield (by decide) "a+b" ?_
  exact resolve_eq_descriptor_iff.mpr rfl

/-! ## References -/

/-- **Referenced values stay unseen in secrets.** A descriptor refers to a secret for a key, and two
loads that succeed start from environments that differ in the value of that key only; the orders of
hashed maps may be others as well. Then some field of the key is a secret; both loads report the
same; and the one thing that can be shown differently is the leaf of a field of the key that is not
a secret, apart from the order of entries in hashed maps. So every group without such a field is
shown and logged the same, and everything is if no group has one: in any one order of hashed maps,
and outright if the orders are the same or make no difference to what is shown. -/
theorem referenced_value_unseen {w : World} {s : Settings} {groups : List (String × Schema Leaf)}
    {e₁ e₂ : Environment} {order₁ order₂ : HashOrder} {c₁ c₂ : Config} {path : Path}
    {d : Descriptor} {entry : Entry}
    (h₁ : (build { s with environment := some e₁, hashOrder := order₁ } groups).result = .ok c₁)
    (h₂ : (build { s with environment := some e₂, hashOrder := order₂ } groups).result = .ok c₂)
    (hpath : s.descriptor = some path) (hd : (Descriptor.load w.files path).result = .ok d)
    (hentry : entry ∈ d.entries) (hsecret : entry.isSecret = true)
    (he : Environment.SameExcept (· = entry.name) e₁ e₂)
    (hok₁ : (c₁.load w).outcome = .ok ()) (hok₂ : (c₂.load w).outcome = .ok ()) :
    let l₁ := c₁.load w
    let l₂ := c₂.load w
    (∃ f ∈ c₁.fields, f.key = entry.name ∧ f.isSecret = true) ∧
      l₁.events = l₂.events ∧
      List.Forall₂ (fun x y => x.field = y.field ∧
          ((x.field.key = entry.name → x.field.isSecret = true) →
            ∀ order order', order = order' ∨ x.leaf.OrderFree →
              Schema.shownValue order x.field x.leaf = Schema.shownValue order' y.field y.leaf))
        l₁.config.bindings l₂.config.bindings ∧
      (∀ (i : Nat) (g : Group), l₁.config.groups[i]? = some g →
        (∀ f ∈ g.fields, f.key = entry.name → f.isSecret = true) →
        (order₁ = order₂ ∨ g.OrderFree s.scope →
          l₁.config.snapshot.2.groups[i]? = l₂.config.snapshot.2.groups[i]? ∧
            l₁.config.logResolved.2[i]? = l₂.config.logResolved.2[i]?) ∧
        ∀ order, (l₁.config.withHashOrder order).snapshot.2.groups[i]? =
            (l₂.config.withHashOrder order).snapshot.2.groups[i]? ∧
          (l₁.config.withHashOrder order).logResolved.2[i]? =
            (l₂.config.withHashOrder order).logResolved.2[i]?) ∧
      (c₁.OnlySecrets entry.name →
        (order₁ = order₂ ∨ l₁.config.OrderFree →
          l₁.config.snapshot.2 = l₂.config.snapshot.2 ∧
            l₁.config.logResolved.2 = l₂.config.logResolved.2) ∧
        ∀ order, (l₁.config.withHashOrder order).snapshot.2 =
            (l₂.config.withHashOrder order).snapshot.2 ∧
          (l₁.config.withHashOrder order).logResolved.2 =
            (l₂.config.withHashOrder order).logResolved.2) := by
  intro l₁ l₂
  obtain rfl := eq_fresh_of_build h₁
  obtain rfl := eq_fresh_of_build h₂
  obtain ⟨hevents, hsame⟩ := load_fresh_sameExcept he hok₁ hok₂
  have hself₁ : l₁.config.withHashOrder order₁ = l₁.config := withHashOrder_load _
  have hself₂ : l₂.config.withHashOrder order₂ = l₂.config := withHashOrder_load _
  refine ⟨?_, hevents, ?_, fun i g hg hs => ⟨fun ho => ?_, fun order => ?_⟩,
    fun honly => ⟨fun ho => ?_, fun order => ?_⟩⟩
  · -- A load with this descriptor only succeeds if the reference passed the check.
    obtain ⟨out, hl, -⟩ := (load_eq_ok_iff rfl).mp hok₁
    obtain ⟨hnone, -⟩ | ⟨path', d', hpath', hd', hv, -⟩ := layered_eq_ok_iff.mp hl
    · cases hpath.symm.trans hnone
    · cases hpath.symm.trans hpath'
      cases hd.symm.trans hd'
      exact Descriptor.validateSecrets_eq_ok_iff.mp hv entry hentry hsecret
  · exact hsame.bindings.imp fun x y hxy =>
      ⟨hxy.field, fun hx _ _ ho => hxy.shown hx (ho.imp_right fun hfree _ => hfree)⟩
  · have hscope : l₁.config.scope = s.scope := (load_keeps w _).1
    have hshown := hsame.shown hg hs (hscope ▸ ho)
    rwa [hself₁, hself₂] at hshown
  · exact hsame.shown hg hs (.inl rfl)
  · have hshown := hsame.snapshot (fun f hf => honly f (fields_load w _ ▸ hf)) ho
    rwa [hself₁, hself₂] at hshown
  · exact hsame.snapshot (fun f hf => honly f (fields_load w _ ▸ hf)) (.inl rfl)

/-- One key in two groups, a secret in the first and not in the second. -/
def sharedGroups : List (String × Schema Leaf) :=
  [("vault",
      Schema.ofLeaves
        [(⟨"token", ⟨[(Tags.secretKey, "true")]⟩⟩, Leaf.new (.kind .text)),
          (⟨"limits", ⟨[(Tags.defaultKey, "day:8")]⟩⟩,
            Leaf.new (.kind (.hashMap .text (.int .u16))))]),
    ("debug", Schema.ofLeaves [(⟨"token", Tags.empty⟩, Leaf.new (.kind .text))])]

/-- The environment in which the key of the sample descriptor's reference has a value. -/
def tokenEnvironment (token : String) : Environment :=
  Environment.ofPairs [("TOKEN", token)]

/-- The configuration of the shared key, with the sample descriptor. -/
def sharedConfig (token : String) : Config :=
  fresh (sampleSettings (tokenEnvironment token)) sharedGroups

theorem build_sharedConfig (token : String) :
    (build (sampleSettings (tokenEnvironment token)) sharedGroups).result =
      .ok (sharedConfig token) := by
  have hkeys : ∀ g ∈ sharedGroups, firstRepeated? [] (g.2.keys "") = none := by decide
  exact build_eq_ok_iff.mpr ⟨hkeys, rfl⟩

theorem layered_sharedConfig (token : String) :
    ((sharedConfig token).layered sampleWorld (tokenEnvironment token)).result =
      .ok ((tokenEnvironment token).layer
        (sampleDescriptor.candidates (tokenEnvironment token))).1 := by
  have hfields : (sharedConfig token).fields = (sharedConfig "").fields := rfl
  refine layered_sample rfl ?_
  rw [hfields]
  decide

theorem load_sharedConfig :
    ((sharedConfig "a").load sampleWorld).outcome = .ok () ∧
      ((sharedConfig "b").load sampleWorld).outcome = .ok () :=
  ⟨(load_eq_ok_iff rfl).mpr ⟨_, layered_sharedConfig "a", by decide⟩,
    (load_eq_ok_iff rfl).mpr ⟨_, layered_sharedConfig "b", by decide⟩⟩

theorem tokenEnvironment_sameExcept (a b : String) :
    Environment.SameExcept (· = "TOKEN") (tokenEnvironment a) (tokenEnvironment b) :=
  .cons ⟨rfl, rfl, fun hk => absurd rfl hk⟩ .nil

/-- Once loaded, no hashed map of the vault has two entries. -/
theorem isCalm_vault {g : Group}
    (h : ((sharedConfig "a").load sampleWorld).config.groups[0]? = some g) :
    ∀ x ∈ g.schema.bindings "", x.leaf.isCalm = true := by
  have hcalm : ((sharedConfig "a").load sampleWorld).config.groups[0]?.all
      (fun g => (g.schema.bindings "").all fun x => x.leaf.isCalm) = true := by
    rw [load_of_layered rfl (layered_sharedConfig "a")]
    decide +kernel
  rw [h] at hcalm
  exact List.all_eq_true.mp hcalm

/-- Two loads with other orders of hashed maps show the vault the same, which has at most one entry
in each of its own. -/
theorem referenced_value_unseen_shared :
    let c₂ := (sharedConfig "b").withHashOrder asTheyCame
    Entry.secretRef "TOKEN" "vault" "token" ∈ sampleDescriptor.entries ∧
      ((sharedConfig "a").load sampleWorld).outcome = .ok () ∧
      (c₂.load sampleWorld).outcome = .ok () ∧
      ((sharedConfig "a").load sampleWorld).events = (c₂.load sampleWorld).events ∧
      ((sharedConfig "a").load sampleWorld).config.snapshot.2.groups[0]? =
        (c₂.load sampleWorld).config.snapshot.2.groups[0]? := by
  intro c₂
  have hentry : Entry.secretRef "TOKEN" "vault" "token" ∈ sampleDescriptor.entries := by decide
  have hok₁ := load_sharedConfig.1
  have hok₂ : (c₂.load sampleWorld).outcome = .ok () :=
    (outcome_load_withHashOrder (sharedConfig "b")).trans load_sharedConfig.2
  have hbuild₂ : (build { sampleSettings (tokenEnvironment "b") with hashOrder := asTheyCame }
      sharedGroups).result = .ok c₂ :=
    build_eq_ok_iff.mpr ⟨(build_eq_ok_iff.mp (build_sharedConfig "b")).1, rfl⟩
  obtain ⟨-, hevents, -, hgroups, -⟩ := referenced_value_unseen (s := sampleSettings .empty)
    (build_sharedConfig "a") hbuild₂ rfl load_sampleManifest hentry rfl
    (tokenEnvironment_sameExcept "a" "b") hok₁ hok₂
  have hvault : (sharedConfig "a").groups[0]? = some (Group.collected "" sharedGroups[0]) := rfl
  obtain ⟨g, hg, -, hfields⟩ := getElem?_groups_load (w := sampleWorld) hvault
  have hsecret : ∀ f ∈ g.fields, f.key = "TOKEN" → f.isSecret = true := by
    rw [hfields]
    decide +kernel
  have hfree : g.OrderFree "" := fun x hx _ => Leaf.orderFree_of_isCalm (isCalm_vault hg x hx)
  exact ⟨hentry, hok₁, hok₂, hevents, ((hgroups 0 g hg hsecret).1 (.inr hfree)).1⟩

/-- The value of a key that a descriptor refers to a secret for can be shown: by a group that has a
field of the key that is not a secret, where another group has one that is. -/
theorem referenced_value_shown :
    ¬ ∀ (w : World) (s : Settings) (groups : List (String × Schema Leaf)) (e₁ e₂ : Environment)
        (c₁ c₂ : Config) (path : Path) (d : Descriptor) (entry : Entry),
        (build { s with environment := some e₁ } groups).result = .ok c₁ →
        (build { s with environment := some e₂ } groups).result = .ok c₂ →
        s.descriptor = some path → (Descriptor.load w.files path).result = .ok d →
        d.validateSecrets c₁.fields = .ok () → entry ∈ d.entries → entry.isSecret = true →
        e₁.contains entry.name = true → e₂.contains entry.name = true →
        Environment.SameExcept (· = entry.name) e₁ e₂ →
        (c₁.load w).outcome = .ok () → (c₂.load w).outcome = .ok () →
        (c₁.load w).config.snapshot.2 = (c₂.load w).config.snapshot.2 ∧
          (c₁.load w).events = (c₂.load w).events ∧
          (c₁.load w).config.logResolved.2 = (c₂.load w).config.logResolved.2 := by
  intro h
  obtain ⟨hok₁, hok₂⟩ := load_sharedConfig
  obtain ⟨hshown, -, -⟩ := h sampleWorld (sampleSettings .empty) sharedGroups _ _ _ _ _ _
    (Entry.secretRef "TOKEN" "vault" "token") (build_sharedConfig "a") (build_sharedConfig "b") rfl
    load_sampleManifest (by decide +kernel) (by decide) rfl (by decide) (by decide)
    (tokenEnvironment_sameExcept "a" "b") hok₁ hok₂
  rw [load_of_layered rfl (layered_sharedConfig "a"),
    load_of_layered rfl (layered_sharedConfig "b")] at hshown
  revert hshown
  decide +kernel

end Config

end ConfigBinding
