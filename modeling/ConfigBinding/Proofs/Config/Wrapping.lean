import ConfigBinding.Config.Session
import ConfigBinding.Proofs.Config.Loading

/-!
# How the structures of a configuration are held

No operation on a configuration looks at how its structures are held: replacing the wrappings of all
groups and performing operations can be done in either order, with the same answers
(`perform_rewrap`, `run_rewrap`). A run is a list of operations, each performed in the world of its
time.

Every structure of a built configuration is present (`entered_fresh`), so by the same commutation
every structure of a configuration that a run leads to is (`Entered.run`). On such a configuration
the views change nothing at all (`Entered.perform_view`, `Entered.run_views`).
-/

set_option autoImplicit false

namespace ConfigBinding

/-! ## Lists by place -/

section
variable {α β γ : Type*}

theorem map_mapIdx (f : β → γ) (g : Nat → α → β) (xs : List α) :
    (xs.mapIdx g).map f = xs.mapIdx fun i x => f (g i x) := by
  refine List.ext_getElem? fun i => ?_
  simp only [List.getElem?_map, List.getElem?_mapIdx, Option.map_map]
  rfl

theorem mapIdx_map (f : Nat → β → γ) (g : α → β) (xs : List α) :
    (xs.map g).mapIdx f = xs.mapIdx fun i x => f i (g x) := by
  refine List.ext_getElem? fun i => ?_
  simp only [List.getElem?_map, List.getElem?_mapIdx, Option.map_map]
  rfl

theorem mapIdx_const (f : α → β) (xs : List α) : (xs.mapIdx fun _ x => f x) = xs.map f :=
  List.ext_getElem? fun i => by rw [List.getElem?_map, List.getElem?_mapIdx]

end

/-! ## Groups -/

theorem Group.rewrap_rewrap (f f' : Wrapping → Wrapping) (g : Group) :
    (g.rewrap f).rewrap f' = g.rewrap (f' ∘ f) := by
  simp only [rewrap, Schema.rewrap_rewrap]

/-- What is shown of a group are the values of its leaves; the group is entered. -/
theorem Group.display_eq (orders : String → EntryOrder) (scope : String) (g : Group) :
    g.display orders scope =
      (g.rewrap Wrapping.entered,
        ⟨g.name, (g.schema.bindings scope).map fun b =>
          (b.field.key, Schema.shownValue (orders b.field.key) b.field b.leaf)⟩) := by
  simp only [display, Schema.display_eq, Schema.entered_eq_rewrap, rewrap]

namespace Config

/-- The configuration with every wrapping replaced. -/
def rewrap (f : Wrapping → Wrapping) (c : Config) : Config :=
  { c with groups := c.groups.map (Group.rewrap f) }

/-- The same configuration with every structure held plainly. -/
def plainly (c : Config) : Config :=
  c.rewrap fun _ => .plain

/-- Every optional structure is present. -/
def Entered (c : Config) : Prop :=
  c.rewrap Wrapping.entered = c

theorem rewrap_rewrap (f f' : Wrapping → Wrapping) (c : Config) :
    (c.rewrap f).rewrap f' = c.rewrap (f' ∘ f) := by
  have hgroups : Group.rewrap f' ∘ Group.rewrap f = Group.rewrap (f' ∘ f) :=
    funext (Group.rewrap_rewrap f f')
  simp only [rewrap, List.map_map, hgroups]

@[simp] theorem fields_rewrap (f : Wrapping → Wrapping) (c : Config) :
    (c.rewrap f).fields = c.fields := by
  simp only [fields, rewrap, List.flatMap_map, Group.rewrap]

@[simp] theorem bindings_rewrap (f : Wrapping → Wrapping) (c : Config) :
    (c.rewrap f).bindings = c.bindings := by
  simp only [bindings, rewrap, List.flatMap_map, Group.rewrap, Schema.bindings_rewrap]

/-! ## Operations -/

section
variable {f : Wrapping → Wrapping} {w : World}

theorem layered_rewrap (c : Config) (e : Environment) :
    (c.rewrap f).layered w e = c.layered w e := by
  unfold layered
  rw [fields_rewrap]
  rfl

theorem resolved_rewrap (hf : ∀ x, (f x).entered = f x.entered) (c : Config) (e : Environment) :
    (c.rewrap f).resolved w e = ((c.resolved w e).1.map (Group.rewrap f), (c.resolved w e).2) := by
  unfold resolved
  rw [resolveGroups_eq_walkGroups, resolveGroups_eq_walkGroups]
  exact walkGroups_rewrap hf c.scope c.groups c.beforeResolving

theorem load_rewrap (hf : ∀ x, (f x).entered = f x.entered) (c : Config) :
    (c.rewrap f).load w = { c.load w with config := (c.load w).config.rewrap f } := by
  have hlayered : (c.rewrap f).layered w ((c.rewrap f).startEnvironment w) =
      c.layered w (c.startEnvironment w) := layered_rewrap c _
  by_cases hs : c.stage = .fieldsCollected
  · have hs' : (c.rewrap f).stage = .fieldsCollected := hs
    cases hl : (c.layered w (c.startEnvironment w)).result with
    | error error =>
      rw [load_of_layered_error hs hl, load_of_layered_error hs' (hlayered ▸ hl), hlayered]
      rfl
    | ok e =>
      rw [load_of_layered hs hl, load_of_layered hs' (hlayered ▸ hl), hlayered, resolved_rewrap hf]
      simp only [rewrap, List.length_map]
      rfl
  · have hs' : (c.rewrap f).stage ≠ .fieldsCollected := hs
    rw [load_of_not_fresh hs, load_of_not_fresh hs']

/-- A snapshot enters every structure, and shows the values of the leaves. -/
theorem snapshot_eq (c : Config) :
    c.snapshot =
      (c.rewrap Wrapping.entered,
        ⟨c.groups.mapIdx fun i g => ⟨g.name, (g.schema.bindings c.scope).map fun b =>
          (b.field.key,
            Schema.shownValue (c.hashOrder c.stage i b.field.key) b.field b.leaf)⟩⟩) := by
  simp only [snapshot, Group.display_eq, map_mapIdx, mapIdx_const]
  rfl

theorem snapshot_rewrap (hf : ∀ x, (f x).entered = f x.entered) (c : Config) :
    (c.rewrap f).snapshot = (c.snapshot.1.rewrap f, c.snapshot.2) := by
  have hentered : Wrapping.entered ∘ f = f ∘ Wrapping.entered := funext hf
  rw [snapshot_eq, snapshot_eq, rewrap_rewrap, rewrap_rewrap, hentered]
  simp only [rewrap, mapIdx_map, Group.rewrap, Schema.bindings_rewrap]

/-- An operation answers the same however structures are held, and leaves them so. -/
theorem perform_rewrap (hf : ∀ x, (f x).entered = f x.entered) (c : Config) (op : Operation) :
    (c.rewrap f).perform w op = ((c.perform w op).1.rewrap f, (c.perform w op).2) := by
  cases op with
  | load => simp only [perform, load_rewrap hf]
  | snapshot => simp only [perform, snapshot_rewrap hf]
  | logResolved => simp only [perform, logResolved, snapshot_rewrap hf]
  | usage => simp only [perform, usage, rewrap, List.flatMap_map, Group.rewrap]
  | stage => rfl
  | environment => rfl

end

/-! ## Runs -/

/-- The configuration after operations performed in turn, each in a world of its own, with every
answer and the events it reported. -/
def run (c : Config) : List (World × Operation) → Config × List (Answer × List Event)
  | [] => (c, [])
  | step :: steps =>
    let (c, answer) := c.perform step.1 step.2
    let (c, answers) := c.run steps
    (c, answer :: answers)

theorem run_append (c : Config) (steps later : List (World × Operation)) :
    c.run (steps ++ later) =
      (((c.run steps).1.run later).1, (c.run steps).2 ++ ((c.run steps).1.run later).2) := by
  induction steps generalizing c with
  | nil => rfl
  | cons step steps ih => simp only [List.cons_append, run, ih]

/-- In a run of operations that change nothing, each answers as if it were the only one. -/
theorem run_of_fixed {c : Config} {steps : List (World × Operation)}
    (h : ∀ step ∈ steps, (c.perform step.1 step.2).1 = c) :
    c.run steps = (c, steps.map fun step => (c.perform step.1 step.2).2) := by
  induction steps with
  | nil => rfl
  | cons step steps ih =>
    obtain ⟨hstep, hsteps⟩ := List.forall_mem_cons.mp h
    simp only [run, hstep, ih hsteps, List.map_cons]

/-- A run answers the same however structures are held, and leaves them so. -/
theorem run_rewrap {f : Wrapping → Wrapping} (hf : ∀ x, (f x).entered = f x.entered) (c : Config)
    (steps : List (World × Operation)) :
    (c.rewrap f).run steps = ((c.run steps).1.rewrap f, (c.run steps).2) := by
  induction steps generalizing c with
  | nil => rfl
  | cons step steps ih => simp only [run, perform_rewrap hf, ih]

/-! ## Entered configurations -/

theorem entered_fresh (s : Settings) (groups : List (String × Schema Leaf)) :
    (fresh s groups).Entered := by
  have hcollected : Group.rewrap Wrapping.entered ∘ Group.collected s.scope =
      Group.collected s.scope := by
    funext g
    have htwice : Wrapping.entered ∘ Wrapping.entered = Wrapping.entered :=
      funext Wrapping.entered_entered
    simp only [Function.comp, Group.rewrap, Group.collected, Schema.entered_eq_rewrap,
      Schema.rewrap_rewrap, htwice]
  simp only [Entered, rewrap, fresh, List.map_map, hcollected]

namespace Entered

variable {w : World} {c : Config}

/-- Whatever operations are performed, every structure stays present. -/
theorem run (h : c.Entered) (steps : List (World × Operation)) : (c.run steps).1.Entered := by
  have hrewrap := run_rewrap (f := Wrapping.entered) (fun _ => rfl) c steps
  rw [h] at hrewrap
  exact (congrArg Prod.fst hrewrap).symm

theorem load (h : c.Entered) (w : World) : (c.load w).config.Entered :=
  h.run [(w, .load)]

/-- A view changes nothing. -/
theorem perform_view (h : c.Entered) {op : Operation} (hop : op ≠ .load) :
    (c.perform w op).1 = c := by
  cases op with
  | load => exact absurd rfl hop
  | snapshot => simp only [perform, snapshot_eq]; exact h
  | logResolved => simp only [perform, logResolved, snapshot_eq]; exact h
  | usage => rfl
  | stage => rfl
  | environment => rfl

/-- Views change nothing, in any order and number. -/
theorem run_views (h : c.Entered) {views : List (World × Operation)}
    (hviews : ∀ step ∈ views, step.2 ≠ .load) :
    c.run views = (c, views.map fun step => (c.perform step.1 step.2).2) :=
  run_of_fixed fun step hstep => h.perform_view (hviews step hstep)

end Entered

end Config

end ConfigBinding
