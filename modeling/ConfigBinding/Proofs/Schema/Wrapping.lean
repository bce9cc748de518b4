import ConfigBinding.Proofs.Schema.Bindings

/-!
# How structures are held

A walk looks at how a structure is held only to hold it the same way, with what is optional present.
So replacing the wrappings of a schema and walking over it can be done in either order
(`walk_rewrap`), for every replacement that goes together with entering a structure. Two
replacements matter:

* `Wrapping.entered`, which a walk makes itself: a schema that has been entered everywhere stays so,
  wherever a walk over it ends.
* holding everything plainly: schemas that are the same when held plainly (`plainly`) differ in
  wrappings at most, and walks do not tell them apart.
-/

set_option autoImplicit false

namespace ConfigBinding

theorem Wrapping.entered_entered (w : Wrapping) : w.entered.entered = w.entered := by
  cases w <;> rfl

namespace Schema

/-- The same schema with every wrapping replaced. -/
def rewrap (f : Wrapping → Wrapping) : Schema Leaf → Schema Leaf
  | nil => nil
  | leaf label l rest => leaf label l (rest.rewrap f)
  | nested label w inner rest => nested label (f w) (inner.rewrap f) (rest.rewrap f)
  | embedded w inner rest => embedded (f w) (inner.rewrap f) (rest.rewrap f)

/-- The same schema with every structure held plainly. -/
def plainly (s : Schema Leaf) : Schema Leaf :=
  s.rewrap fun _ => .plain

theorem entered_eq_rewrap (s : Schema Leaf) : s.entered = s.rewrap Wrapping.entered := by
  induction s with
  | nil => rfl
  | leaf label l rest ih => rw [entered, rewrap, ih]
  | nested label w inner rest ihi ihr => rw [entered, rewrap, ihi, ihr]
  | embedded w inner rest ihi ihr => rw [entered, rewrap, ihi, ihr]

theorem rewrap_rewrap (f g : Wrapping → Wrapping) (s : Schema Leaf) :
    (s.rewrap f).rewrap g = s.rewrap (g ∘ f) := by
  induction s with
  | nil => rfl
  | leaf label l rest ih => simp only [rewrap, ih]
  | nested label w inner rest ihi ihr => simp only [rewrap, ihi, ihr, Function.comp]
  | embedded w inner rest ihi ihr => simp only [rewrap, ihi, ihr, Function.comp]

/-- Wrappings play no part in the leaves and their fields. -/
theorem bindings_rewrap (f : Wrapping → Wrapping) (scope : String) (s : Schema Leaf) :
    (s.rewrap f).bindings scope = s.bindings scope := by
  induction s generalizing scope with
  | nil => rfl
  | leaf label l rest ih => simp only [rewrap, bindings, ih]
  | nested label w inner rest ihi ihr => simp only [rewrap, bindings, ihi, ihr]
  | embedded w inner rest ihi ihr => simp only [rewrap, bindings, ihi, ihr]

theorem keys_rewrap (f : Wrapping → Wrapping) (scope : String) (s : Schema Leaf) :
    (s.rewrap f).keys scope = s.keys scope := by
  rw [← map_key_bindings, bindings_rewrap, map_key_bindings]

/-! ## Walks -/

/-- The walk that came to another schema. -/
def Walk.mapSchema {σ ε : Type} (f : Schema Leaf → Schema Leaf) (w : Walk σ ε) : Walk σ ε :=
  { w with schema := f w.schema }

section
variable {σ ε : Type} {visit : Field → Leaf → σ → Visit σ ε} {f : Wrapping → Wrapping}

/-- Two walks in turn, over schemas that are rewrapped. -/
theorem andThen_rewrap {first : Walk σ ε} {rest : Schema Leaf} {next next' : σ → Walk σ ε}
    {build build' : Schema Leaf → Schema Leaf → Schema Leaf}
    (hnext : ∀ st, next' st = (next st).mapSchema (rewrap f))
    (hbuild : ∀ a b, build' (a.rewrap f) (b.rewrap f) = (build a b).rewrap f) :
    (first.mapSchema (rewrap f)).andThen (rest.rewrap f) next' build' =
      (first.andThen rest next build).mapSchema (rewrap f) := by
  cases hf : first.failure with
  | some e => simp only [Walk.andThen, Walk.mapSchema, hf, hbuild]
  | none => simp only [Walk.andThen, Walk.mapSchema, hf, hnext, hbuild]

/-- A walk over a rewrapped schema is the walk over the schema, rewrapped. -/
theorem walk_rewrap (hf : ∀ w, (f w).entered = f w.entered) (scope : String) (s : Schema Leaf)
    (st : σ) :
    (s.rewrap f).walk visit scope st = (s.walk visit scope st).mapSchema (rewrap f) := by
  induction s generalizing scope st with
  | nil => rfl
  | leaf label l rest ih =>
    cases hfail : (visit (fieldOf scope label l) l st).failure with
    | some e => simp only [rewrap, walk, hfail, Walk.mapSchema]
    | none => simp only [rewrap, walk, hfail, ih, Walk.mapSchema]
  | nested label w inner rest ihi ihr =>
    simp only [rewrap, walk, ihi]
    exact andThen_rewrap (ihr scope) fun a b => by rw [rewrap, hf]
  | embedded w inner rest ihi ihr =>
    simp only [rewrap, walk, ihi]
    exact andThen_rewrap (ihr scope) fun a b => by rw [rewrap, hf]

end

end Schema

end ConfigBinding
