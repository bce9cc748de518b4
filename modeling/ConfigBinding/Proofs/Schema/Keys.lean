import ConfigBinding.Proofs.Schema.Bindings
import ConfigBinding.Proofs.Text.UpperCase

/-!
# Keys and the paths to leaves

A walk computes a key on the way down: every named structure makes a new scope, in upper case, out
of the one around it. Seen from the root, the key of a leaf is written from the labels on the path
to it: the deepest of them that names a variable cuts off everything above it, and without one all
of them count, behind the scope.

`Schema.paths` lists the paths in the order of declaration and `LeafPath.key` writes a key from one.
Main statements:

* `Schema.bindings_eq_map_paths`: the leaves of a schema have the fields that their paths give them.
* `Schema.collect_by_path`: what that says of the fields that a walk collects.
-/

set_option autoImplicit false

namespace ConfigBinding

/-! ## Keys in a scope -/

namespace Label

/-- The word that a label adds to a key. -/
def word (l : Label) : String :=
  Text.upper l.name

theorem boundTo?_ne_empty {l : Label} {v : String} (h : l.boundTo? = some v) : v ≠ "" := by
  have hkept := (Option.filter_eq_some_iff.mp h).2
  rintro rfl
  cases hkept

theorem key_of_bound {l : Label} {v : String} (h : l.boundTo? = some v) (scope : String) :
    l.key scope = Text.upper v := by
  simp only [key, h]

theorem key_of_unbound {l : Label} (h : l.boundTo? = none) (scope : String) :
    l.key scope = if scope.isEmpty then l.word else Text.upper scope ++ "_" ++ l.word := by
  simp only [key, h, scopedKey, Text.upper_append, Text.upper_underscore, word]

/-- A key is in upper case. -/
theorem upper_key (l : Label) (scope : String) : Text.upper (l.key scope) = l.key scope := by
  unfold key scopedKey
  split
  · exact Text.upper_upper _
  · split
    · exact Text.upper_upper _
    · exact Text.upper_upper _

theorem key_ne_empty {l : Label} (h : l.name ≠ "") (scope : String) : l.key scope ≠ "" := by
  unfold key scopedKey
  split
  · rename_i v hv
    exact fun he => boundTo?_ne_empty hv (Text.upper_eq_empty_iff.mp he)
  · split
    · exact fun he => h (Text.upper_eq_empty_iff.mp he)
    · rw [Text.upper_append]
      intro he
      exact h (Text.upper_eq_empty_iff.mp (String.append_eq_empty_iff.mp he).2)

theorem isEmpty_key {l : Label} (h : l.name ≠ "") (scope : String) :
    (l.key scope).isEmpty = false := by
  rw [Bool.eq_false_iff, ne_eq, String.isEmpty_iff]
  exact key_ne_empty h scope

/-! ## Keys along a path -/

/-- The deepest label of a path that names a variable: that variable, and the labels behind it. -/
def lastBound? : List Label → Option (String × List Label)
  | [] => none
  | l :: later => (lastBound? later).or (l.boundTo?.map fun v => (v, later))

theorem lastBound?_of_unbound {path : List Label} (h : ∀ l ∈ path, l.boundTo? = none) :
    lastBound? path = none := by
  induction path with
  | nil => rfl
  | cons l later ih =>
    obtain ⟨hl, hlater⟩ := List.forall_mem_cons.mp h
    rw [lastBound?, ih hlater, hl]
    rfl

theorem lastBound?_eq_none_iff {path : List Label} :
    lastBound? path = none ↔ ∀ l ∈ path, l.boundTo? = none := by
  refine ⟨fun h => ?_, lastBound?_of_unbound⟩
  induction path with
  | nil => exact List.forall_mem_nil _
  | cons l later ih =>
    obtain ⟨hlater, hl⟩ := Option.or_eq_none_iff.mp h
    exact List.forall_mem_cons.mpr ⟨Option.map_eq_none_iff.mp hl, ih hlater⟩

/-- No label above the deepest that names a variable plays a part. -/
theorem lastBound?_of_bound {before later : List Label} {l : Label} {v : String}
    (hl : l.boundTo? = some v) (hlater : ∀ m ∈ later, m.boundTo? = none) :
    lastBound? (before ++ l :: later) = some (v, later) := by
  induction before with
  | nil => rw [List.nil_append, lastBound?, lastBound?_of_unbound hlater, hl]; rfl
  | cons m before ih => rw [List.cons_append, lastBound?, ih]; rfl

/-- The words of the key at the end of a path that starts in a scope. -/
def keyWords (scope : String) (path : List Label) : List String :=
  match lastBound? path with
  | some (v, later) => Text.upper v :: later.map word
  | none => if scope.isEmpty then path.map word else Text.upper scope :: path.map word

/-- The key at the end of a path that starts in a scope. -/
def pathKey (scope : String) (path : List Label) : String :=
  "_".intercalate (keyWords scope path)

/-- To go down one step is to make the step's key the scope. -/
theorem pathKey_cons {l : Label} (h : l.name ≠ "") (scope : String) (path : List Label) :
    pathKey scope (l :: path) = pathKey (l.key scope) path := by
  unfold pathKey keyWords
  rw [lastBound?]
  cases lastBound? path with
  | some bound => rfl
  | none =>
    simp only [Option.none_or, isEmpty_key h, Bool.false_eq_true, ↓reduceIte, upper_key]
    cases hl : l.boundTo? with
    | some v => rw [key_of_bound hl]; rfl
    | none =>
      rw [key_of_unbound hl]
      simp only [Option.map_none, List.map_cons]
      split
      · rfl
      · rw [String.intercalate_cons_append, String.intercalate_cons_cons]

theorem pathKey_singleton {l : Label} (h : l.name ≠ "") (scope : String) :
    pathKey scope [l] = l.key scope := by
  rw [pathKey_cons h]
  simp only [pathKey, keyWords, lastBound?, isEmpty_key h, Bool.false_eq_true, ↓reduceIte,
    upper_key, List.map_nil, String.intercalate_singleton]

/-- A path to a label ends in the label's key, in the scope that the path comes to. -/
theorem exists_pathKey_eq {around : List Label} {l : Label}
    (h : ∀ m ∈ around ++ [l], m.name ≠ "") (scope : String) :
    ∃ inner, pathKey scope (around ++ [l]) = l.key inner := by
  induction around generalizing scope with
  | nil => exact ⟨scope, pathKey_singleton (h l List.mem_cons_self) scope⟩
  | cons m around ih =>
    obtain ⟨hm, hbelow⟩ := List.forall_mem_cons.mp h
    obtain ⟨inner, hinner⟩ := ih hbelow (m.key scope)
    exact ⟨inner, (pathKey_cons hm scope _).trans hinner⟩

end Label

/-! ## Paths -/

/-- A leaf with the labels on the way to it. -/
structure LeafPath where
  /-- The labels of the named structures around the leaf, the outermost first. -/
  around : List Label
  label : Label
  leaf : Leaf

namespace LeafPath

/-- The labels on the way to the leaf, its own included. -/
def steps (p : LeafPath) : List Label :=
  p.around ++ [p.label]

/-- The path with one more structure around it. -/
def under (l : Label) (p : LeafPath) : LeafPath :=
  { p with around := l :: p.around }

/-- The key of the leaf, in a scope around the path. -/
def key (scope : String) (p : LeafPath) : String :=
  Label.pathKey scope p.steps

/-- The field that the leaf is, in a scope around the path. -/
def field (scope : String) (p : LeafPath) : Field where
  name := p.label.name
  key := p.key scope
  typeName := p.leaf.typeName
  tags := p.label.tags

/-- The leaf with its field. -/
def binding (scope : String) (p : LeafPath) : Binding :=
  ⟨p.field scope, p.leaf⟩

theorem binding_under {l : Label} (h : l.name ≠ "") (scope : String) (p : LeafPath) :
    (p.under l).binding scope = p.binding (l.key scope) := by
  have hkey : (p.under l).key scope = p.key (l.key scope) := Label.pathKey_cons h scope p.steps
  rw [binding, field, hkey]
  rfl

end LeafPath

namespace Schema

/-- The paths to the leaves, in the order of declaration. An embedded structure is no step. -/
def paths : Schema Leaf → List LeafPath
  | nil => []
  | leaf label l rest => ⟨[], label, l⟩ :: rest.paths
  | nested label _ inner rest => inner.paths.map (LeafPath.under label) ++ rest.paths
  | embedded _ inner rest => inner.paths ++ rest.paths

/-- Every label on the way to a leaf has a name. -/
def Named (s : Schema Leaf) : Prop :=
  ∀ p ∈ s.paths, ∀ l ∈ p.steps, l.name ≠ ""

theorem map_leaf_paths (s : Schema Leaf) : s.paths.map LeafPath.leaf = s.leaves := by
  induction s with
  | nil => rfl
  | leaf label l rest ih => rw [paths, List.map_cons, ih, leaves]
  | nested label w inner rest ihi ihr =>
    rw [paths, List.map_append, List.map_map, ihr, leaves, ← ihi]; rfl
  | embedded w inner rest ihi ihr => rw [paths, List.map_append, ihi, ihr, leaves]

/-- The leaves of a schema have the fields that their paths give them. -/
theorem bindings_eq_map_paths {s : Schema Leaf} (h : s.Named) (scope : String) :
    s.bindings scope = s.paths.map (LeafPath.binding scope) := by
  -- Below a named structure the scope is another one, so the scope is general.
  induction s generalizing scope with
  | nil => rfl
  | leaf label l rest ih =>
    obtain ⟨hlabel, hrest⟩ := List.forall_mem_cons.mp h
    have hkey : label.key scope = Label.pathKey scope [label] :=
      (Label.pathKey_singleton (hlabel label List.mem_cons_self) scope).symm
    rw [bindings, paths, List.map_cons, ih hrest scope, fieldOf, hkey]
    rfl
  | nested label w inner rest ihi ihr =>
    obtain ⟨hinner, hrest⟩ := List.forall_mem_append.mp h
    have hbelow : ∀ p ∈ inner.paths, ∀ l ∈ label :: p.steps, l.name ≠ "" :=
      fun p hp => hinner _ (List.mem_map_of_mem hp)
    have hnamed : inner.Named := fun p hp l hl => hbelow p hp l (List.mem_cons_of_mem _ hl)
    rw [bindings, paths, List.map_append, List.map_map, ihi hnamed (label.key scope),
      ihr hrest scope]
    congr 1
    refine List.map_congr_left fun p hp => ?_
    exact (LeafPath.binding_under (hbelow p hp label List.mem_cons_self) scope p).symm
  | embedded w inner rest ihi ihr =>
    obtain ⟨hinner, hrest⟩ := List.forall_mem_append.mp h
    rw [bindings, paths, List.map_append, ihi hinner scope, ihr hrest scope]

/-- **Keys by path.** The collected fields are those of the leaves in the order of declaration, each
with the key that its path gives it. From the deepest label on that names a variable, that is the
variable and the names of the labels behind it; without such a label it is the scope, if there is
one, and the names of all labels; always in upper case and joined by underscores. So no key is
empty, every key is in upper case, and only a leaf without such a label on its path can have another
key in another scope. -/
theorem collect_by_path {s : Schema Leaf} (h : s.Named) :
    s.paths.map LeafPath.leaf = s.leaves ∧
      (∀ scope, (s.collect scope).2 = s.paths.map (LeafPath.field scope)) ∧
      (∀ scope, ∀ p ∈ s.paths,
        (∀ before l later v, p.steps = before ++ l :: later → l.boundTo? = some v →
          (∀ m ∈ later, m.boundTo? = none) →
          p.key scope = "_".intercalate (Text.upper v :: later.map Label.word)) ∧
        ((∀ l ∈ p.steps, l.boundTo? = none) →
          p.key scope = "_".intercalate
            (if scope.isEmpty then p.steps.map Label.word
              else Text.upper scope :: p.steps.map Label.word))) ∧
      (∀ scope, ∀ f ∈ (s.collect scope).2, f.key ≠ "" ∧ Text.upper f.key = f.key) ∧
      ∀ scope₁ scope₂, ∀ p ∈ s.paths, p.key scope₁ ≠ p.key scope₂ →
        ∀ l ∈ p.steps, l.boundTo? = none := by
  have hcollect : ∀ scope, (s.collect scope).2 = s.paths.map (LeafPath.field scope) := by
    intro scope
    rw [collect_eq, bindings_eq_map_paths h, List.map_map]
    rfl
  refine ⟨map_leaf_paths s, hcollect, fun scope p _ => ⟨?_, ?_⟩, fun scope f hf => ?_, ?_⟩
  · intro before l later v hsteps hl hlater
    rw [LeafPath.key, hsteps, Label.pathKey, Label.keyWords, Label.lastBound?_of_bound hl hlater]
  · intro hunbound
    rw [LeafPath.key, Label.pathKey, Label.keyWords, Label.lastBound?_of_unbound hunbound]
  · rw [hcollect] at hf
    obtain ⟨p, hp, rfl⟩ := List.mem_map.mp hf
    obtain ⟨inner, hinner⟩ := Label.exists_pathKey_eq (h p hp) scope
    have hkey : (p.field scope).key = p.label.key inner := hinner
    rw [hkey]
    exact ⟨Label.key_ne_empty (h p hp _ (by simp [LeafPath.steps])) inner, Label.upper_key _ _⟩
  · intro scope₁ scope₂ p _ hne
    rw [← Label.lastBound?_eq_none_iff]
    cases hlast : Label.lastBound? p.steps with
    | none => rfl
    | some bound =>
      refine absurd ?_ hne
      rw [LeafPath.key, LeafPath.key, Label.pathKey, Label.pathKey, Label.keyWords, Label.keyWords,
        hlast]

/-- A label without tags, and one that names a variable. -/
def sampleLabel (name : String) (bound : Option String) : Label :=
  ⟨name, ⟨bound.toList.map fun v => (Tags.variableKey, v)⟩⟩

/-- A switch from an embedded structure, an address that names its variable, and two structures
around other leaves, the second of which names a variable. -/
def sampleServer : Schema Leaf :=
  let text := Leaf.new (.kind .text)
  .embedded .plain (.leaf (sampleLabel "debug" none) text .nil)
    (.leaf (sampleLabel "host" (some "bind_host")) text
      (.nested (sampleLabel "tls" none) (.optional false)
        (.leaf (sampleLabel "straße" none) text .nil)
        (.nested (sampleLabel "admin" (some "ops")) .boxed
          (.nested (sampleLabel "tls" (some "")) .plain
            (.leaf (sampleLabel "cert" none) text .nil) .nil)
          .nil)))

theorem collect_by_path_server :
    sampleServer.Named ∧
      (sampleServer.collect "app").2.map Field.key =
        ["APP_DEBUG", "BIND_HOST", "APP_TLS_STRASSE", "OPS_TLS_CERT"] := by
  have hnamed : sampleServer.Named := by
    unfold Named
    decide
  obtain ⟨-, hcollect, -⟩ := collect_by_path hnamed
  refine ⟨hnamed, ?_⟩
  rw [hcollect]
  decide

end Schema

end ConfigBinding
