import ConfigBinding.Config.Load
import ConfigBinding.Proofs.Schema.Agreement
import ConfigBinding.Proofs.Schema.Tracing
import ConfigBinding.Proofs.Schema.Wrapping

/-!
# Walks over groups

`Config.walkGroups` shows the leaves of group after group to one visitor. It is what a load does
with its resolver (`resolveGroups_eq_walkGroups`), and what holds of a walk over one schema holds of
it: it is one pass over all leaves (`walkGroups_seen`), it does not look at wrappings
(`walkGroups_rewrap`), to note the fields it comes to makes no difference (`walkGroups_traced`), and
a visitor that does the same makes the same walk (`walkGroups_agree`).
-/

set_option autoImplicit false

namespace ConfigBinding

/-- The group with every wrapping of its schema replaced. -/
def Group.rewrap (f : Wrapping → Wrapping) (g : Group) : Group :=
  { g with schema := g.schema.rewrap f }

namespace Config

/-- Shows the leaves of groups to a visitor in turn, up to its first failure. -/
def walkGroups {σ ε : Type} (visit : Field → Leaf → σ → Schema.Visit σ ε) (scope : String) :
    List Group → σ → List Group × σ × Option ε
  | [], s => ([], s, none)
  | g :: gs, s =>
    let walked := g.schema.walk visit scope s
    let g := { g with schema := walked.schema }
    match walked.failure with
    | some e => (g :: gs, walked.state, some e)
    | none =>
      let (gs, s, failure) := walkGroups visit scope gs walked.state
      (g :: gs, s, failure)

/-- A load resolves groups by a walk over them. -/
theorem resolveGroups_eq_walkGroups (r : Resolver) (scope : String) (gs : List Group)
    (s : Resolving) : resolveGroups r scope gs s = walkGroups r.visit scope gs s := by
  induction gs generalizing s with
  | nil => rfl
  | cons g gs ih =>
    cases hf : (g.schema.walk r.visit scope s).failure with
    | some e => simp only [resolveGroups, walkGroups, hf]
    | none => simp only [resolveGroups, walkGroups, hf, ih]

/-- A walk over groups as a pass over all their leaves. -/
def seen {σ ε : Type} (scope : String) (out : List Group × σ × Option ε) : Schema.Pass σ ε :=
  ⟨out.1.flatMap fun g => g.schema.bindings scope, out.2.1, out.2.2⟩

section
variable {σ ε : Type} {visit : Field → Leaf → σ → Schema.Visit σ ε}

/-- A walk over groups is one pass over all their leaves. -/
theorem walkGroups_seen (hv : ∀ f l s, (visit f l s).leaf.type = l.type) (scope : String)
    (gs : List Group) (s : σ) :
    seen scope (walkGroups visit scope gs s) =
      Schema.pass visit (gs.flatMap fun g => g.schema.bindings scope) s := by
  induction gs generalizing s with
  | nil => rfl
  | cons g gs ih =>
    have hwalk := Schema.walk_seen hv scope g.schema s
    rw [List.flatMap_cons]
    cases hf : (g.schema.walk visit scope s).failure with
    | some e =>
      have hpass : (Schema.pass visit (g.schema.bindings scope) s).failure = some e := by
        rw [← hwalk]; exact hf
      rw [Schema.pass_append_some hpass, ← hwalk]
      simp only [walkGroups, hf, seen, List.flatMap_cons, Schema.Walk.seen]
    | none =>
      have hpass : (Schema.pass visit (g.schema.bindings scope) s).failure = none := by
        rw [← hwalk]; exact hf
      rw [Schema.pass_append_none hpass, ← hwalk]
      simp only [Schema.Walk.seen, ← ih, walkGroups, hf, seen, List.flatMap_cons]

/-- A walk over rewrapped groups is the walk over the groups, rewrapped. -/
theorem walkGroups_rewrap {f : Wrapping → Wrapping} (hf : ∀ w, (f w).entered = f w.entered)
    (scope : String) (gs : List Group) (s : σ) :
    walkGroups visit scope (gs.map (Group.rewrap f)) s =
      ((walkGroups visit scope gs s).1.map (Group.rewrap f), (walkGroups visit scope gs s).2) := by
  induction gs generalizing s with
  | nil => rfl
  | cons g gs ih =>
    have hwalk : (g.rewrap f).schema.walk visit scope s =
        (g.schema.walk visit scope s).mapSchema (Schema.rewrap f) :=
      Schema.walk_rewrap hf scope g.schema s
    rw [List.map_cons]
    cases hfail : (g.schema.walk visit scope s).failure with
    | some e => simp only [walkGroups, hwalk, Schema.Walk.mapSchema, hfail, List.map_cons]; rfl
    | none => simp only [walkGroups, hwalk, Schema.Walk.mapSchema, hfail, ih, List.map_cons]; rfl

/-- To note fields makes no difference to a walk over groups. -/
theorem walkGroups_traced (scope : String) (gs : List Group) (s : σ × List Field) :
    ((walkGroups (Schema.traced visit) scope gs s).1,
        (walkGroups (Schema.traced visit) scope gs s).2.1.1,
        (walkGroups (Schema.traced visit) scope gs s).2.2) =
      walkGroups visit scope gs s.1 := by
  induction gs generalizing s with
  | nil => rfl
  | cons g gs ih =>
    have hwalk : (g.schema.walk (Schema.traced visit) scope s).untraced =
        g.schema.walk visit scope s.1 := Schema.walk_traced scope g.schema s
    cases hfail : (g.schema.walk (Schema.traced visit) scope s).failure with
    | some e => simp only [walkGroups, ← hwalk, Schema.Walk.untraced, hfail]
    | none => simp only [walkGroups, ← hwalk, Schema.Walk.untraced, hfail, ← ih]

/-- Walks over groups by visitors that agree are the same. -/
theorem walkGroups_agree {P : σ → Prop} {E : ε → Prop}
    {visit₁ visit₂ : Field → Leaf → σ → Schema.Visit σ ε}
    (h : Schema.AgreeWhile P E visit₁ visit₂) (scope : String) (gs : List Group) {s : σ} (hP : P s)
    (hE : ∀ e ∈ (walkGroups visit₁ scope gs s).2.2, E e) :
    walkGroups visit₂ scope gs s = walkGroups visit₁ scope gs s ∧
      P (walkGroups visit₁ scope gs s).2.1 := by
  induction gs generalizing s with
  | nil => exact ⟨rfl, hP⟩
  | cons g gs ih =>
    have hwalk := Schema.walk_agree h scope g.schema hP
    cases hf : (g.schema.walk visit₁ scope s).failure with
    | some e =>
      simp only [walkGroups, hf] at hE ⊢
      obtain ⟨heq, hstate⟩ := hwalk (hf ▸ hE)
      simp only [heq, hf]
      exact ⟨trivial, hstate⟩
    | none =>
      simp only [walkGroups, hf] at hE ⊢
      obtain ⟨heq, hstate⟩ := hwalk (by simp [hf])
      obtain ⟨hrest, hstate'⟩ := ih hstate hE
      simp only [heq, hf, hrest]
      exact ⟨trivial, hstate'⟩

end

end Config

end ConfigBinding
