import ConfigBinding.Proofs.Descriptor.Secrets

/-!
# Why a descriptor cannot be used

Everything that can go wrong with a descriptor, with the error that tells of it, one inductive type
for each place where it can: the document (`DocumentFault`), the file around it (`Fault`), and a
secret entry (`SecretFault`). Decoding and checking end with an error exactly if there is such a
fault (`load_eq_error_iff`, `validateSecrets_eq_error_iff`). All these errors are among those that
`ConfigError.isOfDescriptor` picks out.
-/

set_option autoImplicit false

namespace ConfigBinding

universe u

/-- Whether an error is about a descriptor. -/
def ConfigError.isOfDescriptor : ConfigError → Bool
  | fileNotFound _ | unreadable .. | malformed _ | unknownKind _ | containerCount _
  | unboundSecret _ | untaggedSecret .. => true
  | duplicateKey .. | alreadyLoaded | missingRequired _ | parse _ => false

theorem ConfigError.kind_of_isOfDescriptor {e : ConfigError} (h : e.isOfDescriptor = true) :
    e.kind = .structural := by
  cases e <;> first | rfl | cases h

namespace Descriptor

/-! ## Decoding -/

/-- What keeps a document from being a descriptor. -/
inductive DocumentFault (path : Path) (root : Yaml.Node) : ConfigError → Prop
  /-- It is no structure, or its kind is no text. -/
  | kind : (Manifest.kind root).run root = none → DocumentFault path root (.malformed path)
  | unknownKind {name : Option String} : (Manifest.kind root).run root = some name →
      DeploymentKind.ofName? (name.getD "") = none →
      DocumentFault path root (.unknownKind (name.getD ""))
  /-- It has not the shape of its kind. -/
  | shape {name : Option String} {k : DeploymentKind} :
      (Manifest.kind root).run root = some name →
      DeploymentKind.ofName? (name.getD "") = some k → (Manifest.ofNode k root).run root = none →
      DocumentFault path root (.malformed path)
  | containerCount {name : Option String} {k : DeploymentKind} {m : Manifest} :
      (Manifest.kind root).run root = some name →
      DeploymentKind.ofName? (name.getD "") = some k → (Manifest.ofNode k root).run root = some m →
      ¬ (1 ≤ m.containers.length ∧ m.containers.length ≤ maxContainers) →
      DocumentFault path root (.containerCount m.containers.length)

/-- What keeps a file from being read as a descriptor. -/
inductive Fault (files : FileReader) (path : Path) : ConfigError → Prop
  | missing : files path = .error .missing → Fault files path (.fileNotFound path)
  | unreadable {fault : ReadFault} : files path = .error fault → fault ≠ .missing →
      Fault files path (.unreadable path fault)
  | notText {bytes : List UInt8} : files path = .ok bytes → Text.ofBytes? bytes = none →
      Fault files path (.unreadable path .notText)
  | noDocument {bytes : List UInt8} {contents : String} : files path = .ok bytes →
      Text.ofBytes? bytes = some contents → Yaml.content? contents = none →
      Fault files path (.malformed path)
  | document {bytes : List UInt8} {contents : String} {content : Yaml.Content}
      {error : ConfigError} : files path = .ok bytes → Text.ofBytes? bytes = some contents →
      Yaml.content? contents = some content → DocumentFault path (rootOf content) error →
      Fault files path error

/-- A manifest is refused exactly for the number of its containers. -/
theorem ofManifest_eq_error_iff {path : Path} {k : DeploymentKind} {m : Manifest}
    {e : ConfigError} :
    (ofManifest path k m).result = .error e ↔
      ¬ (1 ≤ m.containers.length ∧ m.containers.length ≤ maxContainers) ∧
        e = .containerCount m.containers.length := by
  unfold ofManifest
  cases m.containers with
  | nil =>
    constructor
    · intro h
      exact ⟨fun hcount => absurd hcount.1 (by decide), (Except.error.inj h).symm⟩
    · rintro ⟨-, rfl⟩
      rfl
  | cons first rest =>
    by_cases hmany : maxContainers < rest.length + 1
    · simp only [hmany, ↓reduceIte]
      constructor
      · intro h
        exact ⟨fun hcount => absurd hmany (Nat.not_lt_of_le hcount.2), (Except.error.inj h).symm⟩
      · rintro ⟨-, rfl⟩
        rfl
    · simp only [hmany, ↓reduceIte]
      constructor
      · intro h
        cases h
      · rintro ⟨hcount, -⟩
        exact absurd ⟨Nat.succ_pos rest.length, Nat.le_of_not_lt hmany⟩ hcount

/-- Decoding a document fails exactly for one of its faults, with the error of that fault. -/
theorem ofNode_eq_error_iff {path : Path} {root : Yaml.Node} {e : ConfigError} :
    (ofNode path root).result = .error e ↔ DocumentFault path root e := by
  constructor
  · intro h
    cases hkind : (Manifest.kind root).run root with
    | none =>
      simp only [ofNode, hkind] at h
      exact Except.error.inj h ▸ .kind hkind
    | some name =>
      cases hname : DeploymentKind.ofName? (name.getD "") with
      | none =>
        simp only [ofNode, hkind, hname] at h
        exact Except.error.inj h ▸ .unknownKind hkind hname
      | some k =>
        cases hshape : (Manifest.ofNode k root).run root with
        | none =>
          simp only [ofNode, hkind, hname, hshape] at h
          exact Except.error.inj h ▸ .shape hkind hname hshape
        | some m =>
          simp only [ofNode, hkind, hname, hshape] at h
          obtain ⟨hcount, rfl⟩ := ofManifest_eq_error_iff.mp h
          exact .containerCount hkind hname hshape hcount
  · intro h
    cases h with
    | kind hkind => simp only [ofNode, hkind]
    | unknownKind hkind hname => simp only [ofNode, hkind, hname]
    | shape hkind hname hshape => simp only [ofNode, hkind, hname, hshape]
    | containerCount hkind hname hshape hcount =>
      simp only [ofNode, hkind, hname, hshape]
      exact ofManifest_eq_error_iff.mpr ⟨hcount, rfl⟩

/-- Reading a descriptor fails exactly for one of its faults, with the error of that fault. -/
theorem load_eq_error_iff {files : FileReader} {path : Path} {e : ConfigError} :
    (load files path).result = .error e ↔ Fault files path e := by
  constructor
  · intro h
    cases hfile : files path with
    | error fault =>
      by_cases hmissing : fault = .missing
      · subst hmissing
        simp only [load, hfile] at h
        exact Except.error.inj h ▸ .missing hfile
      · simp only [load, hfile] at h
        exact Except.error.inj h ▸ .unreadable hfile hmissing
    | ok bytes =>
      cases htext : Text.ofBytes? bytes with
      | none =>
        simp only [load, hfile, htext] at h
        exact Except.error.inj h ▸ .notText hfile htext
      | some contents =>
        cases hcontent : Yaml.content? contents with
        | none =>
          simp only [load, hfile, htext, parse, hcontent] at h
          exact Except.error.inj h ▸ .noDocument hfile htext hcontent
        | some content =>
          simp only [load, hfile, htext, parse, hcontent] at h
          exact .document hfile htext hcontent (ofNode_eq_error_iff.mp h)
  · intro h
    cases h with
    | missing hfile => simp only [load, hfile]
    | unreadable hfile hmissing => simp only [load, hfile]
    | notText hfile htext => simp only [load, hfile, htext]
    | noDocument hfile htext hcontent => simp only [load, hfile, htext, parse, hcontent]
    | document hfile htext hcontent hfault =>
      simp only [load, hfile, htext, parse, hcontent]
      exact ofNode_eq_error_iff.mpr hfault

theorem Fault.isOfDescriptor {files : FileReader} {path : Path} {e : ConfigError}
    (h : Fault files path e) : e.isOfDescriptor = true := by
  cases h with
  | document _ _ _ hfault => cases hfault <;> rfl
  | _ => rfl

/-! ## Reporting -/

theorem ofNode_cases (path : Path) (root : Yaml.Node) :
    (∃ e, ofNode path root = ⟨.error e, []⟩) ∨ ∃ k m, ofNode path root = ofManifest path k m := by
  unfold ofNode
  split
  · exact .inl ⟨_, rfl⟩
  · split
    · exact .inl ⟨_, rfl⟩
    · split
      · exact .inl ⟨_, rfl⟩
      · exact .inr ⟨_, _, rfl⟩

/-- Before there is a document, nothing is reported. -/
theorem load_cases (files : FileReader) (path : Path) :
    (∃ e, load files path = ⟨.error e, []⟩) ∨ ∃ root, load files path = ofNode path root := by
  unfold load parse
  split
  · exact .inl ⟨_, rfl⟩
  · exact .inl ⟨_, rfl⟩
  · split
    · exact .inl ⟨_, rfl⟩
    · split
      · exact .inl ⟨_, rfl⟩
      · exact .inr ⟨_, rfl⟩

theorem mem_events_ofManifest {path : Path} {k : DeploymentKind} {m : Manifest} {event : Event}
    (h : event ∈ (ofManifest path k m).events) :
    (∃ key, event = .valueIgnored key) ∨ ∃ kind n, event = .descriptorDecoded path kind n := by
  unfold ofManifest at h
  split at h
  · cases h
  · split at h
    · cases h
    · obtain hignored | hdecoded := List.mem_append.mp h
      · obtain ⟨item, -, rfl⟩ := List.mem_map.mp hignored
        exact .inl ⟨item.name, rfl⟩
      · exact .inr ⟨_, _, List.mem_singleton.mp hdecoded⟩

/-- Reading a descriptor reports which values are ignored and that it was decoded. -/
theorem mem_events_load {files : FileReader} {path : Path} {event : Event}
    (h : event ∈ (load files path).events) :
    (∃ key, event = .valueIgnored key) ∨ ∃ kind n, event = .descriptorDecoded path kind n := by
  obtain ⟨e, hload⟩ | ⟨root, hload⟩ := load_cases files path
  · rw [hload] at h; cases h
  · obtain ⟨e, hnode⟩ | ⟨k, m, hnode⟩ := ofNode_cases path root
    · rw [hload, hnode] at h; cases h
    · rw [hload, hnode] at h
      exact mem_events_ofManifest h

/-! ## Checking secrets -/

/-- What keeps a secret entry from passing the check. -/
inductive SecretFault (fields : List Field) (entry : Entry) : ConfigError → Prop
  | unbound : (∀ f ∈ fields, f.key ≠ entry.name) →
      SecretFault fields entry (.unboundSecret entry.name)
  /-- There are fields of the entry's name, but none that is a secret; the first of them is
  named. -/
  | untagged {first : Field} : fields.find? (·.key == entry.name) = some first →
      (∀ f ∈ fields, f.key = entry.name → f.isSecret = false) →
      SecretFault fields entry (.untaggedSecret entry.name first.name)

theorem SecretFault.isOfDescriptor {fields : List Field} {entry : Entry} {e : ConfigError}
    (h : SecretFault fields entry e) : e.isOfDescriptor = true := by
  cases h <;> rfl

/-- An entry does not pass for one of the two faults. -/
theorem checkSecret_eq_error_iff {fields : List Field} {entry : Entry} {e : ConfigError} :
    checkSecret fields entry = .error e ↔ SecretFault fields entry e := by
  have hfind : fields.find? (·.key == entry.name) =
      (fields.filter (·.key == entry.name)).head? := List.head?_filter.symm
  have hmem : ∀ f, f ∈ fields.filter (·.key == entry.name) ↔ f ∈ fields ∧ f.key = entry.name :=
    fun f => by rw [List.mem_filter, beq_iff_eq]
  unfold checkSecret
  generalize fields.filter (·.key == entry.name) = bound at hfind hmem
  cases bound with
  | nil =>
    have hnone : ∀ f ∈ fields, f.key ≠ entry.name := fun f hf hkey =>
      List.not_mem_nil ((hmem f).mpr ⟨hf, hkey⟩)
    constructor
    · intro h
      exact Except.error.inj h ▸ .unbound hnone
    · intro h
      cases h with
      | unbound => rfl
      | untagged hfirst => rw [hfind] at hfirst; cases hfirst
  | cons first rest =>
    obtain ⟨hfirst, hkey⟩ := (hmem first).mp List.mem_cons_self
    have hplain : (first :: rest).any (·.isSecret) = false ↔
        ∀ f ∈ fields, f.key = entry.name → f.isSecret = false := by
      simp only [List.any_eq_false, hmem, and_imp, Bool.not_eq_true]
    constructor
    · intro h
      cases hany : (first :: rest).any (·.isSecret) with
      | true => simp only [hany, ↓reduceIte] at h; cases h
      | false =>
        simp only [hany, Bool.false_eq_true, ↓reduceIte] at h
        exact Except.error.inj h ▸ .untagged hfind (hplain.mp hany)
    · intro h
      cases h with
      | unbound hnone => exact absurd hkey (hnone first hfirst)
      | untagged hnamed htags =>
        rw [hfind] at hnamed
        cases hnamed
        simp only [hplain.mpr htags, Bool.false_eq_true, ↓reduceIte]

/-- The first item of which `Q` holds, those before it passing `P`, is the head of a list or stands
in its tail. -/
theorem exists_first_cons_iff {α : Type u} {P Q : α → Prop} {x : α} {xs : List α} :
    (∃ before y after, x :: xs = before ++ y :: after ∧ Q y ∧ ∀ z ∈ before, P z) ↔
      Q x ∨ P x ∧ ∃ before y after, xs = before ++ y :: after ∧ Q y ∧ ∀ z ∈ before, P z := by
  constructor
  · rintro ⟨before, y, after, hxs, hy, hbefore⟩
    cases before with
    | nil =>
      obtain ⟨rfl, -⟩ := List.cons.inj hxs
      exact .inl hy
    | cons b before =>
      obtain ⟨rfl, htail⟩ := List.cons.inj hxs
      obtain ⟨hx, hrest⟩ := List.forall_mem_cons.mp hbefore
      exact .inr ⟨hx, before, y, after, htail, hy, hrest⟩
  · rintro (hx | ⟨hx, before, y, after, rfl, hy, hbefore⟩)
    · exact ⟨[], x, xs, rfl, hx, List.forall_mem_nil _⟩
    · exact ⟨x :: before, y, after, rfl, hy, List.forall_mem_cons.mpr ⟨hx, hbefore⟩⟩

theorem checkSecrets_eq_error_iff {fields : List Field} {entries : List Entry} {e : ConfigError} :
    checkSecrets fields entries = .error e ↔
      ∃ before entry after, entries = before ++ entry :: after ∧
        (entry.isSecret = true ∧ SecretFault fields entry e) ∧
        ∀ x ∈ before, x.isSecret = true → ∃ f ∈ fields, f.key = x.name ∧ f.isSecret = true := by
  induction entries with
  | nil => simp [checkSecrets]
  | cons entry rest ih =>
    rw [exists_first_cons_iff, ← ih, ← checkSecret_eq_error_iff, ← checkSecret_eq_ok_iff,
      checkSecrets]
    cases entry.isSecret with
    | false => simp
    | true => cases checkSecret fields entry <;> simp

/-- The check fails exactly for the first secret entry that does not pass. -/
theorem validateSecrets_eq_error_iff {d : Descriptor} {fields : List Field} {e : ConfigError} :
    d.validateSecrets fields = .error e ↔
      ∃ before entry after, d.entries = before ++ entry :: after ∧
        (entry.isSecret = true ∧ SecretFault fields entry e) ∧
        ∀ x ∈ before, x.isSecret = true → ∃ f ∈ fields, f.key = x.name ∧ f.isSecret = true :=
  checkSecrets_eq_error_iff

end Descriptor

end ConfigBinding
