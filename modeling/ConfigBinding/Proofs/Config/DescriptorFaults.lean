import ConfigBinding.Proofs.Config.Lifecycle

/-!
# Loads whose descriptor cannot be used

Everything about a descriptor is settled before anything is layered or resolved. So a load whose
descriptor cannot be used (`Spoiled`) ends with that error and has done nothing else
(`load_of_spoiled`), and a load that fails at a field had a descriptor that decoded and whose
secrets all passed.
-/

set_option autoImplicit false

namespace ConfigBinding.Config

section
variable {w : World} {c : Config} {error : ConfigError}

/-- All that is reported of a descriptor that cannot be used is what reading it reports. -/
theorem Spoiled.mem_events (h : c.Spoiled w error) {e : Environment} {event : Event}
    (hevent : event ∈ (c.layered w e).events) :
    (∃ key, event = .valueIgnored key) ∨ ∃ path kind n, event = .descriptorDecoded path kind n := by
  obtain ⟨path, hevents⟩ :
      ∃ path, (c.layered w e).events = (Descriptor.load w.files path).events := by
    cases h with
    | @reading path error hpath hfault =>
      exact ⟨path, by simp only [layered, hpath, Descriptor.load_eq_error_iff.mpr hfault]⟩
    | @secret path d before after entry error hpath hd hentries hsecret hfault hbefore =>
      have hv := Descriptor.validateSecrets_eq_error_iff.mpr
        ⟨_, _, _, hentries, ⟨hsecret, hfault⟩, hbefore⟩
      exact ⟨path, by simp only [layered, hpath, hd, hv]⟩
  rw [hevents] at hevent
  exact (Descriptor.mem_events_load hevent).imp_right fun hdecoded => ⟨path, hdecoded⟩

/-- A load whose descriptor cannot be used fails and gives the environment away. -/
theorem load_of_spoiled (hs : c.stage = .fieldsCollected) (h : c.Spoiled w error) :
    c.load w =
      ⟨{ c with environment := none, stage := .failed }, .error error,
        (c.layered w (c.startEnvironment w)).events⟩ :=
  load_of_layered_error hs (layered_eq_error_iff.mpr h)

/-- A secret entry that does not pass spoils its descriptor, whatever else the descriptor has. -/
theorem exists_spoiled_of_secret {path : Path} {d : Descriptor} {entry : Entry}
    (hpath : c.descriptor = some path) (hd : (Descriptor.load w.files path).result = .ok d)
    (hentry : entry ∈ d.entries) (hsecret : entry.isSecret = true)
    (hfails : ¬ ∃ f ∈ c.fields, f.key = entry.name ∧ f.isSecret = true) :
    ∃ first ∈ d.entries, ∃ error, first.isSecret = true ∧
      Descriptor.SecretFault c.fields first error ∧ c.Spoiled w error := by
  cases hv : d.validateSecrets c.fields with
  | ok _ => exact absurd (Descriptor.validateSecrets_eq_ok_iff.mp hv entry hentry hsecret) hfails
  | error error =>
    obtain ⟨before, first, after, hentries, ⟨hfirst, hfault⟩, hbefore⟩ :=
      Descriptor.validateSecrets_eq_error_iff.mp hv
    have hmem : first ∈ d.entries := by
      rw [hentries]
      exact List.mem_append_right _ List.mem_cons_self
    exact ⟨first, hmem, error, hfirst, hfault,
      .secret hpath hd hentries hfirst hfault hbefore⟩

/-- A load that came to the fields of a configuration has a descriptor that decoded and whose
secrets all passed, if it has one. -/
theorem decoded_of_layered {start e : Environment} {path : Path}
    (hl : (c.layered w start).result = .ok e) (hpath : c.descriptor = some path) :
    ∃ d, (Descriptor.load w.files path).result = .ok d ∧
      ∀ entry ∈ d.entries, entry.isSecret = true →
        ∃ f ∈ c.fields, f.key = entry.name ∧ f.isSecret = true := by
  obtain ⟨hnone, -⟩ | ⟨path', d, hpath', hd, hv, -⟩ := layered_eq_ok_iff.mp hl
  · rw [hpath] at hnone
    cases hnone
  · obtain rfl : path = path' := Option.some.inj (hpath.symm.trans hpath')
    exact ⟨d, hd, Descriptor.validateSecrets_eq_ok_iff.mp hv⟩

end

/-- **Descriptor faults are atomic.** A load fails with the error of whatever keeps its descriptor
from being used, a fault of the file or the document or the first secret entry that does not pass,
and only then with an error about a descriptor. It leaves every group as it was built, layers
nothing, does not ask the platform, and reports at most that the descriptor was decoded. Conversely,
a load that fails at a field had a descriptor that decoded and whose secrets all passed, if it had
one. -/
theorem descriptor_faults_atomic {s : Settings} {groups : List (String × Schema Leaf)} {c : Config}
    (hbuild : (build s groups).result = .ok c) (w : World) :
    let l := c.load w
    (∀ error, c.Spoiled w error ↔ l.outcome = .error error ∧ error.isOfDescriptor = true) ∧
      (∀ path error, s.descriptor = some path → Descriptor.Fault w.files path error →
        l.outcome = .error error) ∧
      (∀ path d, s.descriptor = some path → (Descriptor.load w.files path).result = .ok d →
        ∀ entry ∈ d.entries, entry.isSecret = true →
          (¬ ∃ f ∈ c.fields, f.key = entry.name ∧ f.isSecret = true) →
          ∃ first ∈ d.entries, ∃ error, first.isSecret = true ∧
            Descriptor.SecretFault c.fields first error ∧ l.outcome = .error error) ∧
      (∀ error, l.outcome = .error error → error.isOfDescriptor = true →
        error.kind = .structural ∧ l.config.groups = c.groups ∧
          l.config.environment? = none ∧ l.config.asked = 0 ∧
          ∀ event ∈ l.events, (∃ key, event = .valueIgnored key) ∨
            ∃ path kind n, event = .descriptorDecoded path kind n) ∧
      ∀ error, l.outcome = .error error → error.IsOfField →
        ∀ path, s.descriptor = some path →
          ∃ d, (Descriptor.load w.files path).result = .ok d ∧
            ∀ entry ∈ d.entries, entry.isSecret = true →
              ∃ f ∈ c.fields, f.key = entry.name ∧ f.isSecret = true := by
  intro l
  obtain rfl := eq_fresh_of_build hbuild
  have hfirst : FirstLoad w (fresh s groups) l.outcome l.config.stage l.config.environment? :=
    firstLoad rfl
  have hspoiled : ∀ error, (fresh s groups).Spoiled w error ↔
      l.outcome = .error error ∧ error.isOfDescriptor = true := by
    intro error
    refine ⟨fun h => ⟨by rw [show l = _ from load_of_spoiled rfl h], h.isOfDescriptor⟩, ?_⟩
    rintro ⟨herror, hd⟩
    exact (hfirst.spoiled_of_descriptor herror hd).1
  refine ⟨hspoiled, fun path error hpath hfault => ?_,
    fun path d hpath hd entry hentry hsecret hfails => ?_, fun error herror hd => ?_,
    fun error herror hfield path hpath => ?_⟩
  · exact ((hspoiled error).mp (.reading hpath hfault)).1
  · obtain ⟨first, hmem, error, hfirst, hfault, h⟩ :=
      exists_spoiled_of_secret (c := fresh s groups) hpath hd hentry hsecret hfails
    exact ⟨first, hmem, error, hfirst, hfault, ((hspoiled error).mp h).1⟩
  · have h := (hspoiled error).mpr ⟨herror, hd⟩
    have hload : l = _ := load_of_spoiled rfl h
    rw [hload]
    exact ⟨ConfigError.kind_of_isOfDescriptor hd, rfl, rfl, rfl, fun event => h.mem_events⟩
  · obtain ⟨e, hl, -⟩ := hfirst.environment_of_fields (.inr ⟨error, herror, hfield⟩)
    exact decoded_of_layered hl hpath

/-- The sample descriptor's secret has a field of its name that is not a secret. -/
theorem descriptor_faults_atomic_untagged :
    let s := sampleSettings .empty
    let groups := [("debug",
      Schema.ofLeaves [(⟨"token", Tags.empty⟩, Leaf.new (.kind .text))])]
    let c := fresh s groups
    (build s groups).result = .ok c ∧
      (c.load sampleWorld).outcome = .error (.untaggedSecret "TOKEN" "token") ∧
      (c.load sampleWorld).config.groups = c.groups ∧ (c.load sampleWorld).config.asked = 0 := by
  intro s groups c
  have hbuild : (build s groups).result = .ok c := build_eq_ok_iff.mpr ⟨by decide, rfl⟩
  have hfirst : c.fields.find? (·.key == "TOKEN") =
      some ⟨"token", "TOKEN", "String", Tags.empty⟩ := by decide
  have hplain : ∀ f ∈ c.fields, f.key = "TOKEN" → f.isSecret = false := by decide
  have hfault : Descriptor.SecretFault c.fields (Entry.secretRef "TOKEN" "vault" "token")
      (.untaggedSecret "TOKEN" "token") :=
    @Descriptor.SecretFault.untagged _ (Entry.secretRef "TOKEN" "vault" "token") _ hfirst hplain
  have hentries : sampleDescriptor.entries =
      [Entry.literal "KEYS" "a+b"] ++ Entry.secretRef "TOKEN" "vault" "token" :: [] := rfl
  have hspoiled : c.Spoiled sampleWorld (.untaggedSecret "TOKEN" "token") :=
    .secret rfl load_sampleManifest hentries rfl hfault (by simp [Entry.literal, Entry.isSecret])
  obtain ⟨hspoils, -, -, hatomic, -⟩ := descriptor_faults_atomic hbuild sampleWorld
  obtain ⟨houtcome, hd⟩ := (hspoils _).mp hspoiled
  obtain ⟨-, hgroups, -, hasked, -⟩ := hatomic _ houtcome hd
  exact ⟨hbuild, houtcome, hgroups, hasked⟩

end ConfigBinding.Config
