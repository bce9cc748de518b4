import Mathlib.Data.List.Forall2
import ConfigBinding.Proofs.Descriptor.Faults
import ConfigBinding.Proofs.Yaml.Values

/-!
# What is taken from a document

The shape of a manifest, field by field as a document has it, and what a document comes to
(`Outcome`): an error for its kind, its shape or the number of its containers, or the entries of its
name and of its first container. Decoding comes to just that, for every text (`parse_result_iff`).
-/

set_option autoImplicit false

namespace ConfigBinding

open Yaml

namespace Manifest

/-! ## Shapes -/

/-- The names of kinds, and the fields that lead from a document's `spec` to its containers. -/
inductive Places : String → DeploymentKind → List String → Prop
  | service : Places "Service" .service ["template", "spec", "containers"]
  | workerPool : Places "WorkerPool" .workerPool ["template", "spec", "containers"]
  | job : Places "Job" .job ["template", "spec", "template", "spec", "containers"]

section
variable (anchors : List (Nat × Node))

/-- A node refers to a secret: it has a name and a key. -/
inductive IsSecretRef : Node → SecretRef → Nat → Prop
  | intro {node : Node} {fields : List (String × Node)} {name key : String} {i j k : Nat} :
      HasFields anchors ["name", "key"] node fields i →
      HasField fields "name" (IsText anchors) name j →
      HasField fields "key" (IsText anchors) key k → IsSecretRef node ⟨name, key⟩ (i + j + k)

/-- A node tells where a value comes from: from a secret, or it does not say. -/
def IsSource : Node → Option SecretRef → Nat → Prop :=
  AtPath anchors none (IsOptional anchors (IsSecretRef anchors)) ["secretKeyRef"]

/-- A node is an item of an environment list: it has a name, and it may have a value and a
source. -/
inductive IsItem (depth : Nat) : Node → ManifestEntry → Nat → Prop
  | intro {node : Node} {fields : List (String × Node)} {name : String} {value : Option Value}
      {source : Option (Option SecretRef)} {i j k l : Nat} :
      HasFields anchors ["name", "value", "valueFrom"] node fields i →
      HasField fields "name" (IsText anchors) name j →
      HasFieldOr fields "value" none (IsOptional anchors (IsValue anchors depth)) value k →
      HasFieldOr fields "valueFrom" none (IsOptional anchors (IsSource anchors)) source l →
      IsItem depth node ⟨name, value, source.join⟩ (i + j + k + l)

/-- A node is a container, with the items of its environment list. -/
def IsContainer (depth : Nat) : Node → List ManifestEntry → Nat → Prop :=
  AtPath anchors [] (IsList anchors (IsItem anchors depth)) ["env"]

end

/-- A document has a kind; it is empty if the document does not name one. -/
inductive HasKind (root : Node) : String → Prop
  | intro {name : Option String} {n : Nat} :
      AtPath root.anchors none (IsOptional root.anchors (IsText root.anchors)) ["kind"] root
        name n →
      n ≤ 100 * root.weight → HasKind root (name.getD "")

/-- A document is a manifest with its containers at the end of a path from `spec` on. Above the
values of its environment lists there are the document, what the fields of the path stand in, the
list of containers, a container, its environment list and an item. -/
inductive HasShape (root : Node) (path : List String) : Manifest → Prop
  | intro {fields : List (String × Node)} {name : Option String}
      {containers : List (List ManifestEntry)} {i j k : Nat} :
      HasFields root.anchors ["metadata", "spec"] root fields i →
      HasFieldOr fields "metadata" none (AtPath root.anchors none
        (IsOptional root.anchors (IsText root.anchors)) ["name"]) name j →
      HasFieldOr fields "spec" [] (AtPath root.anchors []
        (IsList root.anchors (IsContainer root.anchors (128 - (path.length + 5)))) path)
        containers k →
      i + j + k ≤ 100 * root.weight → HasShape root path ⟨name, containers⟩

end Manifest

/-! ## Entries -/

/-- The entry that an item comes to: that of its secret, whatever value it has, or that of its
value. -/
inductive ManifestEntry.Becomes : ManifestEntry → Entry → Prop
  | secret (name : String) (value : Option Value) (ref : SecretRef) :
      Becomes ⟨name, value, some ref⟩ ⟨name, none, some ref⟩
  | missing (name : String) : Becomes ⟨name, none, none⟩ ⟨name, some "", none⟩
  | null (name : String) : Becomes ⟨name, some .null, none⟩ ⟨name, some "", none⟩
  | text (name s : String) : Becomes ⟨name, some (.text s), none⟩ ⟨name, some s, none⟩
  | integer (name : String) (n : Int) :
      Becomes ⟨name, some (.integer n), none⟩ ⟨name, some (Decimal.intText n), none⟩
  | float (name : String) (v : Decimal.BinaryFloat) :
      Becomes ⟨name, some (.float v), none⟩ ⟨name, some (floatStyle.render .double v), none⟩
  | bool (name : String) (b : Bool) : Becomes ⟨name, some (.bool b), none⟩
      ⟨name, some (if b then "true" else "false"), none⟩
  | sequence (name : String) (items : List Value) :
      Becomes ⟨name, some (.sequence items), none⟩ ⟨name, none, none⟩
  | mapping (name : String) (entries : List (Value × Value)) :
      Becomes ⟨name, some (.mapping entries), none⟩ ⟨name, none, none⟩
  | tagged (name tag : String) (v : Value) :
      Becomes ⟨name, some (.tagged tag v), none⟩ ⟨name, none, none⟩

namespace Descriptor

open Manifest ManifestEntry

/-- The entry of the name of what is deployed, if it has one that is not empty. -/
inductive Publishes : Option String → List Entry → Prop
  | named {name : String} : name ≠ "" → Publishes (some name) [⟨"K_SERVICE", some name, none⟩]
  | empty : Publishes (some "") []
  | missing : Publishes none []

/-- What a document comes to as a descriptor. -/
inductive Outcome (path : Path) (root : Node) : Except ConfigError Descriptor → Prop
  /-- The document is no structure, or its kind is no text. -/
  | noKind : (∀ kind, ¬ HasKind root kind) → Outcome path root (.error (.malformed path))
  /-- The kind is not known, whatever else there is in the document. -/
  | unknownKind {kind : String} : HasKind root kind → (∀ k fields, ¬ Places kind k fields) →
      Outcome path root (.error (.unknownKind kind))
  /-- The document has not the shape of its kind. -/
  | misfit {kind : String} {k : DeploymentKind} {fields : List String} : HasKind root kind →
      Places kind k fields → (∀ m, ¬ HasShape root fields m) →
      Outcome path root (.error (.malformed path))
  /-- There are no containers or more than ten. -/
  | count {kind : String} {k : DeploymentKind} {fields : List String} {m : Manifest} :
      HasKind root kind → Places kind k fields → HasShape root fields m →
      m.containers.length = 0 ∨ 10 < m.containers.length →
      Outcome path root (.error (.containerCount m.containers.length))
  | decoded {kind : String} {k : DeploymentKind} {fields : List String} {m : Manifest}
      {first : List ManifestEntry} {rest : List (List ManifestEntry)}
      {published items : List Entry} : HasKind root kind → Places kind k fields →
      HasShape root fields m → m.containers = first :: rest → m.containers.length ≤ 10 →
      Publishes m.name published → List.Forall₂ Becomes first items →
      Outcome path root (.ok ⟨path, k, published ++ items⟩)

end Descriptor

/-! ## Readers of shapes -/

namespace Manifest

variable {anchors : List (Nat × Node)}

open Decoder

theorem spends_secretRef (node : Node) :
    Spends (secretRef node) anchors (IsSecretRef anchors node) := by
  refine ((spends_fields _ node).bind fun fields => (spends_field spends_text fields "name").bind
    fun name => (spends_field spends_text fields "key").bind fun key =>
      .pure (⟨name, key⟩ : SecretRef)).congr fun ref n => ⟨?_, ?_⟩
  · rintro ⟨fields, i, _, hfields, ⟨name, j, _, hname,
      ⟨key, k, _, hkey, ⟨rfl, rfl⟩, rfl⟩, rfl⟩, rfl⟩
    rw [← Nat.add_assoc]
    exact .intro hfields hname hkey
  · rintro ⟨hfields, hname, hkey⟩
    exact ⟨_, _, _, hfields, ⟨_, _, _, hname, ⟨_, _, 0, hkey, ⟨rfl, rfl⟩, rfl⟩, rfl⟩,
      Nat.add_assoc ..⟩

theorem spends_valueSource (node : Node) :
    Spends (valueSource node) anchors (IsSource anchors node) :=
  spends_atPath (spends_optional spends_secretRef) "secretKeyRef" node

theorem spends_entry (depth : Nat) (node : Node) :
    Spends (entry depth node) anchors (IsItem anchors depth node) := by
  refine ((spends_fields _ node).bind fun fields => (spends_field spends_text fields "name").bind
    fun name => (spends_fieldOr (spends_optional (spends_value depth)) fields "value" none).bind
      fun value =>
        (spends_fieldOr (spends_optional spends_valueSource) fields "valueFrom" none).bind
          fun source => .pure (⟨name, value, source.join⟩ : ManifestEntry)).congr
            fun item n => ⟨?_, ?_⟩
  · rintro ⟨fields, i, _, hfields, ⟨name, j, _, hname, ⟨value, k, _, hvalue,
      ⟨source, l, _, hsource, ⟨rfl, rfl⟩, rfl⟩, rfl⟩, rfl⟩, rfl⟩
    rw [← Nat.add_assoc, ← Nat.add_assoc]
    exact .intro hfields hname hvalue hsource
  · rintro ⟨hfields, hname, hvalue, hsource⟩
    exact ⟨_, _, _, hfields, ⟨_, _, _, hname, ⟨_, _, _, hvalue,
      ⟨_, _, 0, hsource, ⟨rfl, rfl⟩, rfl⟩, rfl⟩, rfl⟩, by omega⟩

theorem spends_container (depth : Nat) (node : Node) :
    Spends (container depth node) anchors (IsContainer anchors depth node) :=
  spends_atPath (spends_list (spends_entry depth)) "env" node

theorem spends_containersAt (depth : Nat) (path : List String) (node : Node) :
    Spends (containersAt depth path node) anchors
      (AtPath anchors [] (IsList anchors (IsContainer anchors depth)) (path ++ ["containers"])
        node) := by
  induction path generalizing node with
  | nil => exact spends_atPath (spends_list (spends_container depth)) "containers" node
  | cons step path ih => exact spends_atPath ih step node

theorem spends_metadataName (node : Node) : Spends (metadataName node) anchors
    (AtPath anchors none (IsOptional anchors (IsText anchors)) ["name"] node) :=
  spends_atPath (spends_optional spends_text) "name" node

theorem hasKind_iff {root : Node} {s : String} :
    HasKind root s ↔ ∃ name, (kind root).run root = some name ∧ name.getD "" = s := by
  have hkind : Spends (kind root) root.anchors
      (AtPath root.anchors none (IsOptional root.anchors (IsText root.anchors)) ["kind"] root) :=
    spends_atPath (spends_optional spends_text) "kind" root
  constructor
  · rintro ⟨h, hn⟩
    exact ⟨_, hkind.run_eq_some_iff.mpr ⟨_, hn, h⟩, rfl⟩
  · rintro ⟨name, hrun, rfl⟩
    obtain ⟨n, hn, h⟩ := hkind.run_eq_some_iff.mp hrun
    exact .intro h hn

theorem hasShape_iff {k : DeploymentKind} {root : Node} {m : Manifest} :
    HasShape root (k.containerPath ++ ["containers"]) m ↔ (ofNode k root).run root = some m := by
  have hdepth : 128 - ((k.containerPath ++ ["containers"]).length + 5) =
      maxDepth - (k.containerPath.length + 6) := by
    rw [List.length_append]
    rfl
  have hshape : Spends (ofNode k root) root.anchors _ :=
    (spends_fields ["metadata", "spec"] root).bind fun fields =>
      (spends_fieldOr spends_metadataName fields "metadata" none).bind fun name =>
        (spends_fieldOr (spends_containersAt _ k.containerPath) fields "spec" []).bind
          fun containers => .pure (⟨name, containers⟩ : Manifest)
  rw [hshape.run_eq_some_iff]
  constructor
  · rintro ⟨hfields, hname, hcontainers, hn⟩
    rw [hdepth] at hcontainers
    exact ⟨_, hn, _, _, _, hfields, ⟨_, _, _, hname, ⟨_, _, 0, hcontainers, ⟨rfl, rfl⟩, rfl⟩, rfl⟩,
      Nat.add_assoc ..⟩
  · rintro ⟨_, hn, fields, i, _, hfields, ⟨name, j, _, hname, ⟨containers, k, _, hcontainers,
      ⟨rfl, rfl⟩, rfl⟩, rfl⟩, rfl⟩
    rw [← hdepth] at hcontainers
    exact .intro hfields hname hcontainers (by omega)

theorem places_iff {name : String} {k : DeploymentKind} {fields : List String} :
    Places name k fields ↔
      DeploymentKind.ofName? name = some k ∧ fields = k.containerPath ++ ["containers"] := by
  constructor
  · intro h
    cases h <;> decide
  · rintro ⟨hname, rfl⟩
    have hk := List.find?_some hname
    rw [beq_iff_eq] at hk
    subst hk
    cases k with
    | service => exact .service
    | workerPool => exact .workerPool
    | job => exact .job

end Manifest

namespace ManifestEntry

theorem becomes_iff {item : ManifestEntry} {e : Entry} :
    Becomes item e ↔ item.toEntry = e := by
  constructor
  · intro h
    cases h <;> rfl
  · rintro rfl
    obtain ⟨name, value, _ | ref⟩ := item
    · obtain _ | value := value
      · exact .missing name
      · cases value <;> constructor
    · exact .secret name value ref

theorem forall₂_becomes_iff {items : List ManifestEntry} {entries : List Entry} :
    List.Forall₂ Becomes items entries ↔ items.map toEntry = entries := by
  have hbecomes : Becomes = fun item e => item.toEntry = e := by
    funext item e
    exact propext becomes_iff
  rw [hbecomes, ← List.forall₂_map_left_iff, List.forall₂_eq_eq_eq]

end ManifestEntry

namespace Descriptor

open Manifest ManifestEntry

theorem publishes_iff {name : Option String} {entries : List Entry} :
    Publishes name entries ↔ nameEntry name = entries := by
  constructor
  · intro h
    cases h with
    | named hname => exact if_neg (by simpa using hname)
    | empty => rfl
    | missing => rfl
  · rintro rfl
    obtain _ | name := name
    · exact .missing
    · by_cases hname : name = ""
      · subst hname
        exact .empty
      · have hentry : nameEntry (some name) = [Entry.literal nameKey name] :=
          if_neg (by simpa using hname)
        rw [hentry]
        exact .named hname

theorem ofManifest_eq_ok_iff {path : Path} {k : DeploymentKind} {m : Manifest} {d : Descriptor} :
    (ofManifest path k m).result = .ok d ↔ ∃ first rest, m.containers = first :: rest ∧
      m.containers.length ≤ maxContainers ∧
      ⟨path, k, nameEntry m.name ++ first.map ManifestEntry.toEntry⟩ = d := by
  unfold ofManifest
  cases m.containers with
  | nil => exact ⟨nofun, nofun⟩
  | cons first rest =>
    by_cases hmany : maxContainers < rest.length + 1
    · simp [hmany, Nat.not_le_of_lt hmany]
    · simp [hmany, Nat.le_of_not_lt hmany]

theorem outcome_ofManifest {path : Path} {root : Node} {kind : String} {k : DeploymentKind}
    {fields : List String} {m : Manifest} (hkind : HasKind root kind)
    (hplaces : Places kind k fields) (hshape : HasShape root fields m) :
    Outcome path root (ofManifest path k m).result := by
  cases hresult : (ofManifest path k m).result with
  | error e =>
    obtain ⟨hcount, rfl⟩ := ofManifest_eq_error_iff.mp hresult
    unfold maxContainers at hcount
    exact .count hkind hplaces hshape (by omega)
  | ok d =>
    obtain ⟨first, rest, hfirst, hcount, rfl⟩ := ofManifest_eq_ok_iff.mp hresult
    exact .decoded hkind hplaces hshape hfirst hcount (publishes_iff.mpr rfl)
      (forall₂_becomes_iff.mpr rfl)

section
variable {path : Path} {root : Node} {kind : String} {k : DeploymentKind} {fields : List String}

theorem ofNode_of_noKind (h : ∀ kind, ¬ HasKind root kind) :
    (ofNode path root).result = .error (.malformed path) := by
  have hrun : (Manifest.kind root).run root = none := by
    rw [Option.eq_none_iff_forall_ne_some]
    intro name hname
    exact h _ (hasKind_iff.mpr ⟨name, hname, rfl⟩)
  simp only [ofNode, hrun]

theorem ofNode_of_unknownKind (hkind : HasKind root kind) (h : ∀ k fields, ¬ Places kind k fields) :
    (ofNode path root).result = .error (.unknownKind kind) := by
  obtain ⟨name, hrun, rfl⟩ := hasKind_iff.mp hkind
  have hname : DeploymentKind.ofName? (name.getD "") = none := by
    rw [Option.eq_none_iff_forall_ne_some]
    intro k hk
    exact h k _ (places_iff.mpr ⟨hk, rfl⟩)
  simp only [ofNode, hrun, hname]

theorem ofNode_of_misfit (hkind : HasKind root kind) (hplaces : Places kind k fields)
    (h : ∀ m, ¬ HasShape root fields m) :
    (ofNode path root).result = .error (.malformed path) := by
  obtain ⟨name, hrun, rfl⟩ := hasKind_iff.mp hkind
  obtain ⟨hname, rfl⟩ := places_iff.mp hplaces
  have hshape : (Manifest.ofNode k root).run root = none := by
    rw [Option.eq_none_iff_forall_ne_some]
    intro m hm
    exact h m (hasShape_iff.mpr hm)
  simp only [ofNode, hrun, hname, hshape]

theorem ofNode_of_hasShape {m : Manifest} (hkind : HasKind root kind)
    (hplaces : Places kind k fields) (hshape : HasShape root fields m) :
    ofNode path root = ofManifest path k m := by
  obtain ⟨name, hrun, rfl⟩ := hasKind_iff.mp hkind
  obtain ⟨hname, rfl⟩ := places_iff.mp hplaces
  simp only [ofNode, hrun, hname, hasShape_iff.mp hshape]

end

/-- Decoding comes to an outcome of the document. -/
theorem outcome_ofNode (path : Path) (root : Node) :
    Outcome path root (ofNode path root).result := by
  by_cases hkind : ∃ kind, HasKind root kind
  · obtain ⟨kind, hkind⟩ := hkind
    by_cases hplaces : ∃ k fields, Places kind k fields
    · obtain ⟨k, fields, hplaces⟩ := hplaces
      by_cases hshape : ∃ m, HasShape root fields m
      · obtain ⟨m, hshape⟩ := hshape
        rw [ofNode_of_hasShape hkind hplaces hshape]
        exact outcome_ofManifest hkind hplaces hshape
      · rw [not_exists] at hshape
        rw [ofNode_of_misfit hkind hplaces hshape]
        exact .misfit hkind hplaces hshape
    · simp only [not_exists] at hplaces
      rw [ofNode_of_unknownKind hkind hplaces]
      exact .unknownKind hkind hplaces
  · rw [not_exists] at hkind
    rw [ofNode_of_noKind hkind]
    exact .noKind hkind

/-- Decoding comes to no other outcome. -/
theorem result_of_outcome {path : Path} {root : Node} {r : Except ConfigError Descriptor}
    (h : Outcome path root r) : (ofNode path root).result = r := by
  cases h with
  | noKind hnone => exact ofNode_of_noKind hnone
  | unknownKind hkind hnone => exact ofNode_of_unknownKind hkind hnone
  | misfit hkind hplaces hnone => exact ofNode_of_misfit hkind hplaces hnone
  | count hkind hplaces hshape hcount =>
    rw [ofNode_of_hasShape hkind hplaces hshape]
    refine ofManifest_eq_error_iff.mpr ⟨?_, rfl⟩
    unfold maxContainers
    omega
  | decoded hkind hplaces hshape hfirst hcount hname hitems =>
    rw [ofNode_of_hasShape hkind hplaces hshape, ofManifest_eq_ok_iff]
    refine ⟨_, _, hfirst, hcount, ?_⟩
    rw [publishes_iff.mp hname, forall₂_becomes_iff.mp hitems]

/-- **What is extracted from a text.** A text that is no document is malformed. Any other comes to
the outcome of its document and to no other: what its kind is comes first; then its shape, with the
containers where its kind has them; then their number; and last the entries, that of its name and
one for each item of the first container. -/
theorem parse_result_iff (path : Path) (contents : String) (r : Except ConfigError Descriptor) :
    (parse path contents).result = r ↔
      (content? contents = none ∧ r = .error (.malformed path)) ∨
        ∃ content, content? contents = some content ∧ Outcome path (rootOf content) r := by
  unfold parse
  cases content? contents with
  | none =>
    simp only [true_and, reduceCtorEq, false_and, exists_false, or_false]
    exact eq_comm
  | some content =>
    simp only [reduceCtorEq, false_and, false_or, Option.some.injEq, exists_eq_left']
    constructor
    · rintro rfl
      exact outcome_ofNode path (rootOf content)
    · exact result_of_outcome

/-- The containers of a job are not looked for where a service has them. -/
example :
    (parse ⟨"job.yaml"⟩
      ("\x7bkind: Job, spec: \x7btemplate: \x7bspec: " ++
        "\x7bcontainers: [\x7b\x7d]\x7d\x7d\x7d\x7d")).result =
        .error (.containerCount 0) := by
  decide +kernel

end Descriptor

end ConfigBinding
