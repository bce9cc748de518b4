import ConfigBinding.Schema.Basic

/-!
# Walks as passes over bindings

A walk goes down a tree; what it does is easier to say of a list. `Schema.bindings` is the flat view
of a schema: its leaves with their fields, in the order of declaration. `Schema.pass` shows bindings
to a visitor one after the other and stops where the visitor fails. Main statements:

* `walk_seen`: a walk by a visitor that keeps the types of leaves comes to the bindings, the state
  and the failure that the pass over the schema's bindings comes to.
* `collect_eq`, `display_eq`: the walks that only note something give a list with one item for each
  binding, and the same schema with its optional structures present (`entered`), whose bindings are
  the same (`bindings_entered`).
-/

set_option autoImplicit false

namespace ConfigBinding

/-- A leaf with the field that it is. -/
structure Binding where
  field : Field
  leaf : Leaf

namespace Schema

/-- The leaves with their fields in a scope, in the order of declaration. -/
def bindings (scope : String) : Schema Leaf → List Binding
  | nil => []
  | leaf label l rest => ⟨fieldOf scope label l, l⟩ :: rest.bindings scope
  | nested label _ inner rest => inner.bindings (label.key scope) ++ rest.bindings scope
  | embedded _ inner rest => inner.bindings scope ++ rest.bindings scope

theorem map_key_bindings (scope : String) (s : Schema Leaf) :
    (s.bindings scope).map (·.field.key) = s.keys scope := by
  induction s generalizing scope with
  | nil => rfl
  | leaf label l rest ih => simp only [bindings, keys, List.map_cons, ih]; rfl
  | nested label w inner rest ihi ihr => simp only [bindings, keys, List.map_append, ihi, ihr]
  | embedded w inner rest ihi ihr => simp only [bindings, keys, List.map_append, ihi, ihr]

/-- The same schema with every optional structure present. -/
def entered : Schema Leaf → Schema Leaf
  | nil => nil
  | leaf label l rest => leaf label l rest.entered
  | nested label w inner rest => nested label w.entered inner.entered rest.entered
  | embedded w inner rest => embedded w.entered inner.entered rest.entered

@[simp] theorem bindings_entered (scope : String) (s : Schema Leaf) :
    s.entered.bindings scope = s.bindings scope := by
  induction s generalizing scope with
  | nil => rfl
  | leaf label l rest ih => simp only [entered, bindings, ih]
  | nested label w inner rest ihi ihr => simp only [entered, bindings, ihi, ihr]
  | embedded w inner rest ihi ihr => simp only [entered, bindings, ihi, ihr]

/-! ## Passes -/

/-- What a pass makes of bindings. -/
structure Pass (σ ε : Type) where
  bindings : List Binding
  state : σ
  failure : Option ε

/-- Shows every binding to the visitor in turn, up to its first failure. -/
def pass {σ ε : Type} (visit : Field → Leaf → σ → Visit σ ε) : List Binding → σ → Pass σ ε
  | [], s => ⟨[], s, none⟩
  | b :: bs, s =>
    let visited := visit b.field b.leaf s
    match visited.failure with
    | some e => ⟨⟨b.field, visited.leaf⟩ :: bs, visited.state, some e⟩
    | none =>
      let passed := pass visit bs visited.state
      { passed with bindings := ⟨b.field, visited.leaf⟩ :: passed.bindings }

/-- A walk as a pass: what it makes of the bindings in a scope. -/
def Walk.seen {σ ε : Type} (w : Walk σ ε) (scope : String) : Pass σ ε :=
  ⟨w.schema.bindings scope, w.state, w.failure⟩

section
variable {σ ε : Type} {visit : Field → Leaf → σ → Visit σ ε}

theorem pass_cons_some {b : Binding} {bs : List Binding} {s : σ} {e : ε}
    (h : (visit b.field b.leaf s).failure = some e) :
    pass visit (b :: bs) s =
      ⟨⟨b.field, (visit b.field b.leaf s).leaf⟩ :: bs, (visit b.field b.leaf s).state, some e⟩ := by
  simp only [pass, h]

theorem pass_cons_none {b : Binding} {bs : List Binding} {s : σ}
    (h : (visit b.field b.leaf s).failure = none) :
    pass visit (b :: bs) s =
      ⟨⟨b.field, (visit b.field b.leaf s).leaf⟩ ::
          (pass visit bs (visit b.field b.leaf s).state).bindings,
        (pass visit bs (visit b.field b.leaf s).state).state,
        (pass visit bs (visit b.field b.leaf s).state).failure⟩ := by
  simp only [pass, h]

/-- A pass that fails leaves what comes after alone. -/
theorem pass_append_some {bs cs : List Binding} {s : σ} {e : ε}
    (h : (pass visit bs s).failure = some e) :
    pass visit (bs ++ cs) s =
      ⟨(pass visit bs s).bindings ++ cs, (pass visit bs s).state, some e⟩ := by
  induction bs generalizing s with
  | nil => simp [pass] at h
  | cons b bs ih =>
    cases hv : (visit b.field b.leaf s).failure with
    | some e' =>
      rw [pass_cons_some hv] at h ⊢
      obtain rfl : e' = e := Option.some.inj h
      rw [List.cons_append, pass_cons_some hv, List.cons_append]
    | none =>
      rw [pass_cons_none hv] at h ⊢
      rw [List.cons_append, pass_cons_none hv, ih h, List.cons_append]

/-- A pass that does not fail goes on with what comes after, in the state it came to. -/
theorem pass_append_none {bs cs : List Binding} {s : σ} (h : (pass visit bs s).failure = none) :
    pass visit (bs ++ cs) s =
      ⟨(pass visit bs s).bindings ++ (pass visit cs (pass visit bs s).state).bindings,
        (pass visit cs (pass visit bs s).state).state,
        (pass visit cs (pass visit bs s).state).failure⟩ := by
  induction bs generalizing s with
  | nil => simp [pass]
  | cons b bs ih =>
    cases hv : (visit b.field b.leaf s).failure with
    | some e => rw [pass_cons_some hv] at h; cases h
    | none =>
      rw [pass_cons_none hv] at h ⊢
      rw [List.cons_append, pass_cons_none hv, ih h, List.cons_append]

/-- A pass that fails does so at one binding, in the state that it came to before. -/
theorem exists_of_pass_failure {bs : List Binding} {s : σ} {e : ε}
    (h : (pass visit bs s).failure = some e) :
    ∃ done x rest, bs = done ++ x :: rest ∧ (pass visit done s).failure = none ∧
      (visit x.field x.leaf (pass visit done s).state).failure = some e := by
  induction bs generalizing s with
  | nil => cases h
  | cons b bs ih =>
    cases hv : (visit b.field b.leaf s).failure with
    | some e' =>
      rw [pass_cons_some hv] at h
      obtain rfl : e' = e := Option.some.inj h
      exact ⟨[], b, bs, rfl, rfl, hv⟩
    | none =>
      rw [pass_cons_none hv] at h
      obtain ⟨done, x, rest, rfl, hdone, hx⟩ := ih h
      refine ⟨b :: done, x, rest, rfl, ?_, ?_⟩
      · rw [pass_cons_none hv]; exact hdone
      · rw [pass_cons_none hv]; exact hx

/-- A pass keeps the fields. -/
theorem map_field_pass (bs : List Binding) (s : σ) :
    (pass visit bs s).bindings.map Binding.field = bs.map Binding.field := by
  induction bs generalizing s with
  | nil => rfl
  | cons b bs ih =>
    cases hv : (visit b.field b.leaf s).failure with
    | some e => rw [pass_cons_some hv]; rfl
    | none => rw [pass_cons_none hv]; simp only [List.map_cons, ih]

end

/-! ## Walks -/

/-- The field of a leaf hangs on the leaf's type alone. -/
theorem fieldOf_eq {l m : Leaf} (h : m.type = l.type) (scope : String) (label : Label) :
    fieldOf scope label m = fieldOf scope label l := by
  simp only [fieldOf, Leaf.typeName, h]

/-- Two walks in turn are one pass, where the schema they build has the bindings of both parts. -/
theorem seen_andThen {σ ε : Type} {visit : Field → Leaf → σ → Visit σ ε} {first : Walk σ ε}
    {rest : Schema Leaf} {next : σ → Walk σ ε} {build : Schema Leaf → Schema Leaf → Schema Leaf}
    {inside scope : String} {bs : List Binding} {s : σ}
    (hb : ∀ a b, (build a b).bindings scope = a.bindings inside ++ b.bindings scope)
    (hfirst : first.seen inside = pass visit bs s)
    (hnext : ∀ st, (next st).seen scope = pass visit (rest.bindings scope) st) :
    (first.andThen rest next build).seen scope = pass visit (bs ++ rest.bindings scope) s := by
  cases hf : first.failure with
  | some e =>
    have hpass : (pass visit bs s).failure = some e := by rw [← hfirst]; exact hf
    rw [pass_append_some hpass, ← hfirst]
    simp only [Walk.andThen, hf, Walk.seen, hb]
  | none =>
    have hpass : (pass visit bs s).failure = none := by rw [← hfirst]; exact hf
    rw [pass_append_none hpass, ← hfirst]
    simp only [Walk.seen, ← hnext, Walk.andThen, hf, hb]

/-- A walk is the pass over the schema's bindings. -/
theorem walk_seen {σ ε : Type} {visit : Field → Leaf → σ → Visit σ ε}
    (hv : ∀ f l s, (visit f l s).leaf.type = l.type) (scope : String) (s : Schema Leaf) (st : σ) :
    (s.walk visit scope st).seen scope = pass visit (s.bindings scope) st := by
  induction s generalizing scope st with
  | nil => rfl
  | leaf label l rest ih =>
    have hf := fieldOf_eq (hv (fieldOf scope label l) l st) scope label
    cases hfail : (visit (fieldOf scope label l) l st).failure with
    | some e =>
      rw [bindings, pass_cons_some hfail]
      simp only [walk, hfail, Walk.seen, bindings, hf]
    | none =>
      have hrest := ih scope (visit (fieldOf scope label l) l st).state
      rw [bindings, pass_cons_none hfail, ← hrest]
      simp only [walk, hfail, Walk.seen, bindings, hf]
  | nested label w inner rest ihi ihr =>
    exact seen_andThen (fun _ _ => rfl) (ihi (label.key scope) st) (ihr scope)
  | embedded w inner rest ihi ihr =>
    exact seen_andThen (fun _ _ => rfl) (ihi scope st) (ihr scope)

/-- The items that a noting visitor makes of bindings. -/
def notes {β : Type} (note : Field → Leaf → β) (bs : List Binding) : List β :=
  bs.map fun b => note b.field b.leaf

/-- A noting walk notes every binding in turn, and changes nothing but that what is optional is then
present. -/
theorem walk_noting {β : Type} (note : Field → Leaf → β) (scope : String) (s : Schema Leaf)
    (seen : List β) :
    s.walk (noting note) scope seen = ⟨s.entered, seen ++ notes note (s.bindings scope), none⟩ := by
  induction s generalizing scope seen with
  | nil => simp [walk, entered, bindings, notes]
  | leaf label l rest ih =>
    simp only [walk, noting, ih, entered, bindings, notes, List.map_cons, List.append_assoc,
      List.singleton_append]
  | nested label w inner rest ihi ihr =>
    simp only [walk, Walk.andThen, ihi, ihr, entered, bindings, notes, List.map_append,
      List.append_assoc]
  | embedded w inner rest ihi ihr =>
    simp only [walk, Walk.andThen, ihi, ihr, entered, bindings, notes, List.map_append,
      List.append_assoc]

theorem collect_eq (scope : String) (s : Schema Leaf) :
    s.collect scope = (s.entered, (s.bindings scope).map Binding.field) := by
  simp only [collect, walk_noting, List.nil_append]; rfl

theorem display_eq (orders : String → EntryOrder) (scope : String) (s : Schema Leaf) :
    s.display orders scope =
      (s.entered, (s.bindings scope).map fun b =>
        (b.field.key, shownValue (orders b.field.key) b.field b.leaf)) := by
  simp only [display, walk_noting, List.nil_append]; rfl

end Schema

end ConfigBinding
