import ConfigBinding.Config.Basic
import ConfigBinding.Proofs.Schema.Bindings
import Mathlib.Data.List.Basic

/-!
# Built configurations

What `Config.build` gives when it gives a configuration: the groups as they were handed over, with
their optional structures present, and their fields as the schemas list them (`build_eq_ok_iff`). So
the leaves of a built configuration are those of the schemas (`bindings_fresh`), and the fields that
were collected are the fields of its leaves (`fields_fresh`).
-/

set_option autoImplicit false

namespace ConfigBinding

/-- A group as it is collected from a schema with a name. -/
def Group.collected (scope : String) (g : String × Schema Leaf) : Group :=
  ⟨g.1, g.2.entered, (g.2.bindings scope).map Binding.field⟩

/-- The collected fields of a group are those of its leaves. -/
def Group.Coherent (scope : String) (g : Group) : Prop :=
  g.fields = (g.schema.bindings scope).map Binding.field

theorem Group.coherent_collected (scope : String) (g : String × Schema Leaf) :
    (Group.collected scope g).Coherent scope := by
  simp only [Coherent, collected, Schema.bindings_entered]

namespace Config

/-- The leaves of all groups with their fields, in the order of registration and declaration. -/
def bindings (c : Config) : List Binding :=
  c.groups.flatMap fun g => g.schema.bindings c.scope

/-- The configuration that is built from settings and groups, if no key stands twice in a group. -/
def fresh (s : Settings) (groups : List (String × Schema Leaf)) : Config where
  groups := groups.map (Group.collected s.scope)
  scope := s.scope
  descriptor := s.descriptor
  optionalSecrets := s.optionalSecrets
  environment := s.environment
  platform := s.platform
  hashOrder := s.hashOrder
  asked := 0
  stage := .fieldsCollected

/-- A group is collected unless a key stands twice in it. -/
theorem collectGroup_eq (scope : String) (g : String × Schema Leaf) :
    collectGroup scope g =
      match firstRepeated? [] (g.2.keys scope) with
      | some key => .error (.duplicateKey g.1 key)
      | none => .ok (Group.collected scope g) := by
  have hkeys : (g.2.collect scope).2.map Field.key = g.2.keys scope := by
    rw [Schema.collect_eq, List.map_map, ← Schema.map_key_bindings]; rfl
  unfold collectGroup
  simp only [hkeys]
  rw [Schema.collect_eq]
  rfl

theorem collectGroups_eq_ok_iff {scope : String} {gs : List (String × Schema Leaf)}
    {out : List Group} :
    collectGroups scope gs = .ok out ↔
      (∀ g ∈ gs, firstRepeated? [] (g.2.keys scope) = none) ∧
        out = gs.map (Group.collected scope) := by
  induction gs generalizing out with
  | nil => simp [collectGroups, eq_comm]
  | cons g gs ih =>
    simp only [collectGroups, collectGroup_eq, List.forall_mem_cons, List.map_cons]
    cases hfirst : firstRepeated? [] (g.2.keys scope) with
    | some key => simp
    | none =>
      simp only [true_and]
      cases hgs : collectGroups scope gs with
      | error e =>
        have hnot : ¬ ∀ g ∈ gs, firstRepeated? [] (g.2.keys scope) = none := by
          intro hall
          rw [ih.mpr ⟨hall, rfl⟩] at hgs
          cases hgs
        simp only [reduceCtorEq, hnot, false_and]
      | ok groups =>
        obtain ⟨hrest, rfl⟩ := ih.mp hgs
        simp only [Except.ok.injEq]
        exact ⟨fun h => ⟨hrest, h.symm⟩, fun h => h.2.symm⟩

/-- When a configuration is built, and which. -/
theorem build_eq_ok_iff {s : Settings} {groups : List (String × Schema Leaf)} {c : Config} :
    (build s groups).result = .ok c ↔
      (∀ g ∈ groups, firstRepeated? [] (g.2.keys s.scope) = none) ∧ c = fresh s groups := by
  have hfresh : ∀ out, collectGroups s.scope groups = .ok out →
      (build s groups).result = .ok { fresh s groups with groups := out } := by
    intro out h
    simp only [build, h, fresh]
  constructor
  · intro h
    cases hout : collectGroups s.scope groups with
    | error e => rw [build, hout] at h; cases h
    | ok out =>
      obtain ⟨hall, rfl⟩ := collectGroups_eq_ok_iff.mp hout
      rw [hfresh _ hout] at h
      exact ⟨hall, (Except.ok.inj h).symm⟩
  · rintro ⟨hall, rfl⟩
    exact hfresh _ (collectGroups_eq_ok_iff.mpr ⟨hall, rfl⟩)

theorem eq_fresh_of_build {s : Settings} {groups : List (String × Schema Leaf)} {c : Config}
    (h : (build s groups).result = .ok c) : c = fresh s groups :=
  (build_eq_ok_iff.mp h).2

/-- Building changes no leaf. -/
theorem bindings_fresh (s : Settings) (groups : List (String × Schema Leaf)) :
    (fresh s groups).bindings = groups.flatMap fun g => g.2.bindings s.scope := by
  simp only [bindings, fresh, List.flatMap_map, Group.collected, Schema.bindings_entered]

theorem coherent_fresh (s : Settings) (groups : List (String × Schema Leaf)) :
    ∀ g ∈ (fresh s groups).groups, g.Coherent s.scope := by
  intro g hg
  obtain ⟨named, -, rfl⟩ := List.mem_map.mp hg
  exact Group.coherent_collected s.scope named

/-- The collected fields of coherent groups are those of all leaves. -/
theorem fields_eq_of_coherent {c : Config} (h : ∀ g ∈ c.groups, g.Coherent c.scope) :
    c.fields = c.bindings.map Binding.field := by
  rw [fields, bindings, List.map_flatMap]
  exact List.flatMap_congr h

end Config

end ConfigBinding
