import ConfigBinding.Proofs.Config.DescriptorFaults

/-!
# Which secret entries pass

An entry of a descriptor that refers to a secret passes if some field of its name, in whichever
group, is tagged as a secret (`Entry.Covered`); the first that does not pass decides the error
(`Entry.uncoveredError`). So the check hangs on the secret entries alone, in their order
(`validateSecrets_congr`), and whether it passes on the set of the fields. A load makes the check
before it looks at the environment, with the fields of all groups
(`load_error_iff_validateSecrets`).
-/

set_option autoImplicit false

namespace ConfigBinding

namespace Entry

/-- Some field of the entry's name is tagged as a secret. -/
def Covered (entry : Entry) (fields : List Field) : Prop :=
  ∃ f ∈ fields, f.key = entry.name ∧ f.isSecret = true

/-- The error for an entry that is not covered. It names the first field of the entry's name, if
there is one. -/
def uncoveredError (entry : Entry) (fields : List Field) : ConfigError :=
  match fields.find? (·.key == entry.name) with
  | none => .unboundSecret entry.name
  | some first => .untaggedSecret entry.name first.name

/-- Which fields there are decides what they cover, not their order or number. -/
theorem covered_congr {entry : Entry} {fields fields' : List Field}
    (h : ∀ f, f ∈ fields' ↔ f ∈ fields) : entry.Covered fields' ↔ entry.Covered fields :=
  exists_congr fun f => and_congr_left fun _ => h f

end Entry

namespace Descriptor

/-- What keeps an entry from passing is that it is not covered. -/
theorem secretFault_iff {fields : List Field} {entry : Entry} {e : ConfigError} :
    SecretFault fields entry e ↔ ¬ entry.Covered fields ∧ e = entry.uncoveredError fields := by
  constructor
  · intro h
    cases h with
    | unbound hnone =>
      have hfind : fields.find? (·.key == entry.name) = none := by
        simpa only [List.find?_eq_none, beq_iff_eq] using hnone
      refine ⟨?_, by rw [Entry.uncoveredError, hfind]⟩
      rintro ⟨f, hf, hkey, -⟩
      exact hnone f hf hkey
    | untagged hfirst hplain =>
      refine ⟨?_, by rw [Entry.uncoveredError, hfirst]⟩
      rintro ⟨f, hf, hkey, hsecret⟩
      rw [hplain f hf hkey] at hsecret
      cases hsecret
  · rintro ⟨huncovered, rfl⟩
    unfold Entry.uncoveredError
    cases hfind : fields.find? (·.key == entry.name) with
    | none =>
      refine .unbound fun f hf hkey => ?_
      exact List.find?_eq_none.mp hfind f hf (beq_iff_eq.mpr hkey)
    | some first =>
      refine .untagged hfind fun f hf hkey => ?_
      exact Bool.eq_false_iff.mpr fun hsecret => huncovered ⟨f, hf, hkey, hsecret⟩

/-- Entries that are no secrets make no difference to the check. -/
theorem checkSecrets_filter (fields : List Field) (entries : List Entry) :
    checkSecrets fields (entries.filter (·.isSecret)) = checkSecrets fields entries := by
  induction entries with
  | nil => rfl
  | cons entry rest ih =>
    cases hsecret : entry.isSecret with
    | true =>
      rw [List.filter_cons_of_pos hsecret]
      simp only [checkSecrets, hsecret, ↓reduceIte, ih]
    | false =>
      rw [List.filter_cons_of_neg (by rw [hsecret]; decide), ih]
      simp only [checkSecrets, hsecret, Bool.false_eq_true, ↓reduceIte]

/-- Descriptors with the same secret entries pass the check or fail it alike. -/
theorem validateSecrets_congr {d d' : Descriptor} (fields : List Field)
    (h : d'.entries.filter (·.isSecret) = d.entries.filter (·.isSecret)) :
    d'.validateSecrets fields = d.validateSecrets fields := by
  unfold validateSecrets
  rw [← checkSecrets_filter, h, checkSecrets_filter]

end Descriptor

namespace Config

/-- The fields that a built configuration has are those collected from its groups, in order. -/
theorem fields_fresh_eq_collect (s : Settings) (groups : List (String × Schema Leaf)) :
    (fresh s groups).fields = groups.flatMap fun g => (g.2.collect s.scope).2 := by
  simp only [fields, fresh, List.flatMap_map, Group.collected, Schema.collect_eq]

/-- With a descriptor that decodes, the errors about it that a first load ends with are those of the
check of its secrets against the fields of all groups. -/
theorem load_error_iff_validateSecrets {w : World} {c : Config} {path : Path} {d : Descriptor}
    (hs : c.stage = .fieldsCollected) (hpath : c.descriptor = some path)
    (hd : (Descriptor.load w.files path).result = .ok d) {error : ConfigError}
    (herror : error.isOfDescriptor = true) :
    (c.load w).outcome = .error error ↔ d.validateSecrets c.fields = .error error := by
  have hlayered : (c.layered w (c.startEnvironment w)).result = .error error ↔
      d.validateSecrets c.fields = .error error := by
    cases hv : d.validateSecrets c.fields with
    | error cause => simp only [layered, hpath, hd, hv, Except.error.injEq]
    | ok _ => simp [layered_of_some hpath hd hv]
  rw [← hlayered]
  constructor
  · intro h
    exact layered_eq_error_iff.mpr ((firstLoad hs).spoiled_of_descriptor h herror).1
  · intro h
    rw [load_of_layered_error hs h]

end Config

/-- **The check of secret references is exact.** It passes exactly if every secret entry is covered,
and otherwise fails for the first secret entry that is not, with the error of that entry. Entries
that are no secrets make no difference to it, and to whether it passes neither does the order of the
fields. In the load of a built configuration the fields are those of all groups in turn, and the
load ends with an error about a descriptor that decodes exactly if the check does, whatever the
environment. -/
theorem Descriptor.secret_check_exact (d : Descriptor) (fields : List Field) :
    (d.validateSecrets fields = .ok () ↔
        ∀ entry ∈ d.entries, entry.isSecret = true → entry.Covered fields) ∧
      (∀ error, d.validateSecrets fields = .error error ↔
        ∃ before entry after, d.entries = before ++ entry :: after ∧ entry.isSecret = true ∧
          ¬ entry.Covered fields ∧ (∀ x ∈ before, x.isSecret = true → x.Covered fields) ∧
          error = entry.uncoveredError fields) ∧
      (∀ d' : Descriptor, d'.entries.filter (·.isSecret) = d.entries.filter (·.isSecret) →
        d'.validateSecrets fields = d.validateSecrets fields) ∧
      (∀ fields' : List Field, (∀ f, f ∈ fields' ↔ f ∈ fields) →
        (d.validateSecrets fields' = .ok () ↔ d.validateSecrets fields = .ok ())) ∧
      ∀ (w : World) (s : Settings) (groups : List (String × Schema Leaf)) (c : Config)
        (path : Path),
        (Config.build s groups).result = .ok c → s.descriptor = some path →
        (Descriptor.load w.files path).result = .ok d →
        (groups.flatMap fun g => (g.2.collect s.scope).2) = fields →
        ∀ error : ConfigError, error.isOfDescriptor = true →
          ((c.load w).outcome = .error error ↔ d.validateSecrets fields = .error error) := by
  refine ⟨validateSecrets_eq_ok_iff, fun error => ?_, fun d' => validateSecrets_congr fields,
    fun fields' hsame => ?_, fun w s groups c path hbuild hpath hd hfields error herror => ?_⟩
  · simp only [validateSecrets_eq_error_iff, secretFault_iff, Entry.Covered]
    refine exists_congr fun before => exists_congr fun entry => exists_congr fun after => ?_
    constructor
    · rintro ⟨hentries, ⟨hsecret, huncovered, rfl⟩, hbefore⟩
      exact ⟨hentries, hsecret, huncovered, hbefore, rfl⟩
    · rintro ⟨hentries, hsecret, huncovered, hbefore, rfl⟩
      exact ⟨hentries, ⟨hsecret, huncovered, rfl⟩, hbefore⟩
  · rw [validateSecrets_eq_ok_iff, validateSecrets_eq_ok_iff]
    exact forall₃_congr fun entry _ _ => Entry.covered_congr hsame
  · obtain rfl := Config.eq_fresh_of_build hbuild
    rw [← hfields, ← Config.fields_fresh_eq_collect]
    exact Config.load_error_iff_validateSecrets rfl hpath hd herror

end ConfigBinding
