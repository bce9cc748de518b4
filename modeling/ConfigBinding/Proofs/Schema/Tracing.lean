import ConfigBinding.Proofs.Schema.Bindings

/-!
# The fields that a walk comes to

`Schema.traced` makes of a visitor one that also notes the fields it is shown. The noting changes
nothing else (`walk_traced`, `pass_traced`), and what is noted are the fields of the bindings in
order, all of them or up to the one whose visit fails (`Shown`).
-/

set_option autoImplicit false

namespace ConfigBinding.Schema

/-- The visitor that also notes the fields it is shown. -/
def traced {σ ε : Type} (visit : Field → Leaf → σ → Visit σ ε) (f : Field) (l : Leaf)
    (s : σ × List Field) : Visit (σ × List Field) ε :=
  let visited := visit f l s.1
  ⟨visited.leaf, (visited.state, s.2 ++ [f]), visited.failure⟩

/-- The walk without the fields that it noted. -/
def Walk.untraced {σ ε : Type} (w : Walk (σ × List Field) ε) : Walk σ ε :=
  ⟨w.schema, w.state.1, w.failure⟩

/-- The pass without the fields that it noted. -/
def Pass.untraced {σ ε : Type} (p : Pass (σ × List Field) ε) : Pass σ ε :=
  ⟨p.bindings, p.state.1, p.failure⟩

/-- The fields that a pass over bindings shows to its visitor: all of them, or those up to the leaf
whose visit fails. -/
def Shown {σ ε : Type} (visit : Field → Leaf → σ → Visit σ ε) (bs : List Binding)
    (fields : List Field) : Option ε → Prop
  | none => fields = bs.map Binding.field
  | some e => ∃ done x rest st, bs = done ++ x :: rest ∧
      fields = done.map Binding.field ++ [x.field] ∧ (visit x.field x.leaf st).failure = some e

section
variable {σ ε : Type} {visit : Field → Leaf → σ → Visit σ ε}

theorem Shown.isPrefix {bs : List Binding} {fields : List Field} {failure : Option ε}
    (h : Shown visit bs fields failure) : fields <+: bs.map Binding.field := by
  cases failure with
  | none => exact h ▸ List.prefix_rfl
  | some e =>
    obtain ⟨done, x, rest, st, rfl, rfl, -⟩ := h
    refine ⟨rest.map Binding.field, ?_⟩
    rw [List.map_append, List.map_cons, List.append_assoc, List.singleton_append]

theorem Shown.cons {b : Binding} {bs : List Binding} {fields : List Field} {failure : Option ε}
    (h : Shown visit bs fields failure) :
    Shown visit (b :: bs) (b.field :: fields) failure := by
  cases failure with
  | none => exact congrArg (b.field :: ·) h
  | some e =>
    obtain ⟨done, x, rest, st, rfl, rfl, hfailure⟩ := h
    exact ⟨b :: done, x, rest, st, rfl, rfl, hfailure⟩

theorem untraced_andThen {first : Walk (σ × List Field) ε} {rest : Schema Leaf}
    {next : σ × List Field → Walk (σ × List Field) ε} {next' : σ → Walk σ ε}
    {build : Schema Leaf → Schema Leaf → Schema Leaf}
    (hnext : ∀ st, (next st).untraced = next' st.1) :
    (first.andThen rest next build).untraced = first.untraced.andThen rest next' build := by
  cases hf : first.failure with
  | some e => simp only [Walk.andThen, Walk.untraced, hf]
  | none => simp only [Walk.andThen, Walk.untraced, hf, ← hnext]

/-- The noting visitor keeps the types of leaves, if the visitor does. -/
theorem type_traced (hv : ∀ f l st, (visit f l st).leaf.type = l.type) (f : Field) (l : Leaf)
    (st : σ × List Field) : (traced visit f l st).leaf.type = l.type :=
  hv f l st.1

/-- To note fields makes no difference to a walk. -/
theorem walk_traced (scope : String) (s : Schema Leaf) (st : σ × List Field) :
    (s.walk (traced visit) scope st).untraced = s.walk visit scope st.1 := by
  induction s generalizing scope st with
  | nil => rfl
  | leaf label l rest ih =>
    cases hfail : (visit (fieldOf scope label l) l st.1).failure with
    | some e => simp only [walk, traced, hfail, Walk.untraced]
    | none =>
      have hrest :
          (rest.walk (traced visit) scope ((visit (fieldOf scope label l) l st.1).state,
            st.2 ++ [fieldOf scope label l])).untraced =
          rest.walk visit scope (visit (fieldOf scope label l) l st.1).state := ih scope _
      simp only [walk, traced, hfail, ← hrest, Walk.untraced]
  | nested label w inner rest ihi ihr =>
    simp only [walk, ← ihi]
    exact untraced_andThen (ihr scope)
  | embedded w inner rest ihi ihr =>
    simp only [walk, ← ihi]
    exact untraced_andThen (ihr scope)

/-- A traced pass notes the fields it shows, behind what was noted before. -/
theorem pass_traced (bs : List Binding) (st : σ) (seen : List Field) :
    (pass (traced visit) bs (st, seen)).untraced = pass visit bs st ∧
      ∃ fields, (pass (traced visit) bs (st, seen)).state.2 = seen ++ fields ∧
        Shown visit bs fields (pass visit bs st).failure := by
  induction bs generalizing st seen with
  | nil => exact ⟨rfl, [], (List.append_nil seen).symm, rfl⟩
  | cons b bs ih =>
    cases hv : (visit b.field b.leaf st).failure with
    | some e =>
      have htraced : (traced visit b.field b.leaf (st, seen)).failure = some e := hv
      rw [pass_cons_some hv, pass_cons_some htraced]
      exact ⟨rfl, [b.field], rfl, [], b, bs, st, rfl, rfl, hv⟩
    | none =>
      have htraced : (traced visit b.field b.leaf (st, seen)).failure = none := hv
      obtain ⟨hpass, fields, hnoted, hshown⟩ :=
        ih (visit b.field b.leaf st).state (seen ++ [b.field])
      rw [pass_cons_none hv, pass_cons_none htraced]
      refine ⟨?_, b.field :: fields, ?_, hshown.cons⟩
      · rw [← hpass]; rfl
      · rw [List.append_cons]; exact hnoted

end

end ConfigBinding.Schema
