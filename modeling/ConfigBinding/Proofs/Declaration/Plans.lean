import ConfigBinding.Declaration.Structure
import ConfigBinding.Proofs.Declaration.Options
import ConfigBinding.Proofs.Schema.Bindings

/-!
# Plans and the fields they are for

A plan has one step for each field that is not ignored, in order (`Serves` says which), and the
places that its steps refer to are the places of its table, each once and in order (`Fits`). One
field more adds at most one step and one label, and what is behind the end of a table is of no
matter to the steps that are there (`Serves.append`); so every plan fits its fields
(`fits_ofFields`).

Both the steps of a plan and the fields of a declaration say how a value is walked over: by the
places of the table, and by each field's own options. For a plan that fits they say the same
(`Fits.toSchema?_eq`), and the walk comes to the leaves field by field (`bindings_schemaOf`).
-/

set_option autoImplicit false

namespace ConfigBinding

/-- A field is written as its name, with the mark of a raw word in front or without one. -/
theorem DeclaredField.ident_cases (f : DeclaredField) :
    f.ident = "r#" ++ f.name ∨ f.ident = f.name ∧ ¬ ['r', '#'] <+: f.ident.toList := by
  unfold name
  split
  case h_1 cs hident =>
    left
    apply String.toList_injective
    simp [hident]
  case h_2 hplain =>
    refine .inr ⟨rfl, fun ⟨cs, hident⟩ => ?_⟩
    exact hplain cs hident.symm

namespace Declaration

/-- The place in the table that a step refers to. -/
def Step.index? : Step → Option Nat
  | leaf index _ _ => some index
  | nested index _ => some index
  | embedded _ => none

/-- The steps that are right for a field, given the table: the place that one refers to holds the
field's name and its tags. -/
inductive Serves (table : List Label) (f : BoundField) : Step → Prop where
  | leaf {index : Nat} (hembedded : f.options.embedded = false)
      (hnested : f.options.nested = false)
      (hlabel : table[index]? = some ⟨f.field.name, f.options.tags⟩) :
      Serves table f (.leaf index (Slot.ofCapability f.options.capability) f.field.ident)
  | nested {index : Nat} (hembedded : f.options.embedded = false)
      (hnested : f.options.nested = true)
      (hlabel : table[index]? = some ⟨f.field.name, f.options.tags⟩) :
      Serves table f (.nested index f.field.ident)
  | embedded (hembedded : f.options.embedded = true) : Serves table f (.embedded f.field.ident)

/-- A plan fits fields: its steps are right for those that are not ignored, one for each, and what
they refer to are all places of the table in order. -/
structure Fits (fields : List BoundField) (p : Plan) : Prop where
  steps : List.Forall₂ (Serves p.table) (fields.filter fun f => !f.options.ignored) p.steps
  indices : p.steps.filterMap Step.index? = List.range p.table.length

/-! ## Fields and their plan -/

section
variable {table : List Label} {f : BoundField} {fields : List BoundField} {p : Plan} {step : Step}

/-- A longer table has the same labels at the places that were there. -/
theorem Serves.append (h : Serves table f step) (more : List Label) :
    Serves (table ++ more) f step := by
  have hkept : ∀ {index : Nat} {label : Label}, table[index]? = some label →
      (table ++ more)[index]? = some label := by
    intro index label hlabel
    rw [List.getElem?_append_left (List.getElem?_eq_some_iff.mp hlabel).1, hlabel]
  cases h with
  | leaf hembedded hnested hlabel => exact .leaf hembedded hnested (hkept hlabel)
  | nested hembedded hnested hlabel => exact .nested hembedded hnested (hkept hlabel)
  | embedded hembedded => exact .embedded hembedded

namespace Fits

theorem empty : Fits [] .empty :=
  ⟨.nil, rfl⟩

/-- One step for one more field. -/
theorem concat (h : Fits fields p) (hignored : f.options.ignored = false) (more : List Label)
    (hserves : Serves (p.table ++ more) f step)
    (hindices : step.index?.toList = (List.range more.length).map (p.table.length + ·)) :
    Fits (fields ++ [f]) ⟨p.table ++ more, p.steps ++ [step]⟩ where
  steps := by
    have hsteps := h.steps.imp fun _ _ hs => hs.append more
    rw [List.filter_append, List.filter_cons_of_pos (by simp [hignored]), List.filter_nil]
    exact List.rel_append hsteps (.cons hserves .nil)
  indices := by
    rw [List.filterMap_append, h.indices, List.length_append, List.range_add, ← hindices]
    cases hindex : step.index? <;> simp [hindex]

/-- A step that has a label refers to the end of the table. -/
theorem addLabelled (h : Fits fields p) (hignored : f.options.ignored = false)
    {step : Nat → Step} (hindex : (step p.table.length).index? = some p.table.length)
    (hserves : (p.table ++ [f.label])[p.table.length]? = some f.label →
      Serves (p.table ++ [f.label]) f (step p.table.length)) :
    Fits (fields ++ [f]) (p.addLabelled f.label step) :=
  h.concat hignored [f.label] (hserves List.getElem?_concat_length) (by simp [hindex])

theorem add (h : Fits fields p) (f : BoundField) : Fits (fields ++ [f]) (p.add f) := by
  unfold Plan.add
  by_cases hignored : f.options.ignored = true
  · rw [if_pos hignored]
    refine ⟨?_, h.indices⟩
    rw [List.filter_append, List.filter_cons_of_neg (by simp [hignored]), List.filter_nil,
      List.append_nil]
    exact h.steps
  rw [if_neg hignored]
  rw [Bool.not_eq_true] at hignored
  by_cases hembedded : f.options.embedded = true
  · rw [if_pos hembedded]
    have hstep := h.concat hignored [] (.embedded hembedded) rfl
    rwa [List.append_nil] at hstep
  rw [if_neg hembedded]
  rw [Bool.not_eq_true] at hembedded
  by_cases hnested : f.options.nested = true
  · rw [if_pos hnested]
    exact h.addLabelled hignored rfl (.nested hembedded hnested)
  · rw [if_neg hnested]
    rw [Bool.not_eq_true] at hnested
    exact h.addLabelled hignored rfl (.leaf hembedded hnested)

end Fits

/-- The plan for fields fits them. -/
theorem fits_ofFields (fields : List BoundField) : Fits fields (Plan.ofFields fields) := by
  induction fields using List.reverseRecOn with
  | nil => exact .empty
  | append_singleton fields f ih =>
    rw [Plan.ofFields, List.foldl_append]
    exact ih.add f

end

/-! ## The walk over a value -/

universe u

section
variable {α : Type u} {fields : List BoundField} {table : List Label} {steps : List Step}

/-- Ignored fields are no part of the structure. -/
theorem schemaOf_filter (m : Members α) (fields : List BoundField) :
    schemaOf m (fields.filter fun f => !f.options.ignored) = schemaOf m fields := by
  induction fields with
  | nil => rfl
  | cons f fields ih =>
    by_cases hignored : f.options.ignored = true
    · rw [List.filter_cons_of_neg (by simp [hignored]), ih, schemaOf, if_pos hignored]
    · rw [List.filter_cons_of_pos (by simp [hignored]), schemaOf, schemaOf, ih]

/-- Steps that are right for fields, one for each, walk over the structure of the fields. -/
theorem schemaOfSteps?_eq (m : Members α) (h : List.Forall₂ (Serves table) fields steps)
    (hkept : ∀ f ∈ fields, f.options.ignored = false) :
    schemaOfSteps? m table steps = some (schemaOf m fields) := by
  induction h with
  | nil => rfl
  | cons hserves _ ih =>
    obtain ⟨hignored, hkept⟩ := List.forall_mem_cons.mp hkept
    have ih := ih hkept
    cases hserves with
    | leaf hembedded hnested hlabel =>
      simp [schemaOfSteps?, schemaOf, hlabel, ih, hignored, hembedded, hnested, BoundField.label]
    | nested hembedded hnested hlabel =>
      simp [schemaOfSteps?, schemaOf, hlabel, ih, hignored, hembedded, hnested, BoundField.label]
    | embedded hembedded =>
      simp [schemaOfSteps?, schemaOf, ih, hignored, hembedded]

/-- A plan that fits walks over the structure of its fields. -/
theorem Fits.toSchema?_eq {p : Plan} (h : Fits fields p) (m : Members α) :
    p.toSchema? m = some (schemaOf m fields) := by
  rw [Plan.toSchema?, ← schemaOf_filter]
  refine schemaOfSteps?_eq m h.steps fun f hf => ?_
  simpa using (List.mem_filter.mp hf).2

end

/-- The leaves that a field of a declaration stands for in a scope, with their fields: none if it is
ignored, those of the structure in it, in the same scope or in that of its own key, or the one leaf
that takes a raw text as the field's options say. -/
def BoundField.bindings (m : Members Leaf) (scope : String) (f : BoundField) : List Binding :=
  let inner := (m.inner f.field.ident).2
  let leaf := m.leaf (Slot.ofCapability f.options.capability) f.field.ident
  if f.options.ignored then []
  else if f.options.embedded then inner.bindings scope
  else if f.options.nested then inner.bindings (f.label.key scope)
  else [⟨Schema.fieldOf scope f.label leaf, leaf⟩]

theorem bindings_schemaOf (m : Members Leaf) (scope : String) (fields : List BoundField) :
    (schemaOf m fields).bindings scope = fields.flatMap (BoundField.bindings m scope) := by
  induction fields with
  | nil => rfl
  | cons f fields ih =>
    rw [List.flatMap_cons, ← ih, schemaOf, BoundField.bindings]
    split
    · rfl
    split
    · rfl
    split <;> rfl

/-! ## Declarations -/

/-- Fields are bound to their own options, in order. -/
theorem bindAll_eq_ok_iff {fs : List DeclaredField} {bound : List BoundField} :
    bindAll fs = .ok bound ↔
      List.Forall₂ (fun f b => b.field = f ∧ f.options = .ok b.options) fs bound := by
  induction fs generalizing bound with
  | nil => simp [bindAll, eq_comm]
  | cons f fs ih =>
    rw [bindAll, List.forall₂_cons_left_iff]
    cases hoptions : f.options with
    | error fault => simp
    | ok o =>
      simp only [Item.map_eq_ok_iff, ih, Except.ok.injEq]
      constructor
      · rintro ⟨rest, hrest, rfl⟩
        exact ⟨⟨f, o⟩, rest, ⟨rfl, rfl⟩, hrest, rfl⟩
      · rintro ⟨b, rest, ⟨rfl, rfl⟩, hrest, rfl⟩
        exact ⟨rest, hrest, rfl⟩

theorem plan_of_bindAll {d : Declaration} {bound : List BoundField} (hform : d.form = .named)
    (hbound : bindAll d.fields = .ok bound) : d.plan = .ok (Plan.ofFields bound) := by
  rw [plan, boundFields, if_pos hform, hbound]
  rfl

/-- A declaration with named fields, all of them accepted, has a plan that fits the fields with
their options. -/
theorem exists_fits {d : Declaration} (hform : d.form = .named)
    (haccepted : ∀ f ∈ d.fields, ∃ o, f.options = .ok o) :
    ∃ p bound, d.plan = .ok p ∧
      List.Forall₂ (fun f b => b.field = f ∧ f.options = .ok b.options) d.fields bound ∧
      Fits bound p := by
  obtain ⟨bound, hbound⟩ := DeclaredField.exists_bindAll_iff.mpr haccepted
  exact ⟨Plan.ofFields bound, bound, plan_of_bindAll hform hbound, bindAll_eq_ok_iff.mp hbound,
    fits_ofFields bound⟩

/-- **The plan of a declaration fits its fields.** A declaration with named fields whose attributes
are accepted has a plan. Its steps are, in order, one for each field that is not ignored, of the
kind that the field's options say; a step for a leaf or a named structure refers to a place of the
table that holds the name of its field, without the mark of a raw word, and its tags; and what the
steps refer to are all the places of the table, each once and in order. So whatever is in the fields
of a value, the steps walk over a structure of it, and a walk by any visitor comes to the leaves of
the declared fields, field by field, under the fields that these leaves are in their scopes. -/
theorem plan_fits_fields {d : Declaration} (hform : d.form = .named)
    (haccepted : ∀ f ∈ d.fields, ∃ o, f.options = .ok o) :
    ∃ p bound, d.plan = .ok p ∧
      List.Forall₂ (fun f b => b.field = f ∧ f.options = .ok b.options) d.fields bound ∧
      List.Forall₂ (Serves p.table) (bound.filter fun b => !b.options.ignored) p.steps ∧
      p.steps.filterMap Step.index? = List.range p.table.length ∧
      (∀ f ∈ d.fields,
        f.ident = "r#" ++ f.name ∨ f.ident = f.name ∧ ¬ ['r', '#'] <+: f.ident.toList) ∧
      ∀ m : Members Leaf, ∃ s, p.toSchema? m = some s ∧ ∀ scope,
        let leaves := bound.flatMap (BoundField.bindings m scope)
        (s.collect scope).2 = leaves.map Binding.field ∧
          ∀ (σ ε : Type) (visit : Field → Leaf → σ → Schema.Visit σ ε),
            (∀ f l st, (visit f l st).leaf.type = l.type) →
            ∀ st, (s.walk visit scope st).seen scope = Schema.pass visit leaves st := by
  obtain ⟨p, bound, hplan, hbound, hfits⟩ := exists_fits hform haccepted
  refine ⟨p, bound, hplan, hbound, hfits.steps, hfits.indices, fun f _ => f.ident_cases,
    fun m => ?_⟩
  refine ⟨schemaOf m bound, hfits.toSchema?_eq m, fun scope => ⟨?_, fun σ ε visit hvisit st => ?_⟩⟩
  · rw [Schema.collect_eq, bindings_schemaOf]
  · rw [Schema.walk_seen hvisit, bindings_schemaOf]

/-! ## A declaration with fields of every sort -/

/-- A text is scanned token by token. -/
theorem Token.scan?_of_next? {cs rest : List Char} {t : Token}
    (hspace : cs.head?.any Literal.isSpace = false) (hcomment : comment? cs = none)
    (hnext : next? cs = some (t, rest)) (hlt : rest.length < cs.length) :
    scan? cs = (scan? rest).map (t :: ·) := by
  cases cs with
  | nil => cases hlt
  | cons c cs =>
    rw [List.head?_cons, Option.any_some] at hspace
    rw [scan?.eq_def]
    simp only [hspace, hcomment, hnext, Nat.le_of_lt_succ hlt, if_true, Bool.false_eq_true,
      if_false]

/-- The tokens of an attribute with one flag. -/
theorem Token.scan?_flag (name : FlagName) :
    scan? ("config(" ++ name.text ++ ")").toList =
      some [.word "config" false, .opening .round, .word name.text false, .closing .round] := by
  have hconfig : next? ("config(" ++ name.text ++ ")").toList =
      some (.word "config" false, '(' :: (name.text ++ ")").toList) := by
    cases name <;> (simp [FlagName.text, next?, mark?, isMark]; decide)
  have hflag : next? (name.text ++ ")").toList = some (.word name.text false, [')']) := by
    cases name <;> (simp [FlagName.text, next?, mark?, isMark]; decide)
  have hopening : next? ('(' :: (name.text ++ ")").toList) =
      some (.opening .round, (name.text ++ ")").toList) := rfl
  have hclosing : next? [')'] = some (.closing .round, []) := rfl
  rw [scan?_of_next? (by cases name <;> decide) (by cases name <;> decide) hconfig
      (by cases name <;> decide),
    scan?_of_next? rfl rfl hopening (by simp),
    scan?_of_next? (by cases name <;> decide) (by cases name <;> decide) hflag
      (by cases name <;> decide),
    scan?_of_next? rfl rfl hclosing (by simp), scan?.eq_def]
  rfl

/-- A field with one flag has the options that this flag adds up to. -/
theorem options_flag (ident : String) (name : FlagName) :
    (⟨ident, ["config(" ++ name.text ++ ")"]⟩ : DeclaredField).options =
      .ok (FieldOptions.ofItems [.flag name true]) := by
  have hitems : Item.ofTexts ["config(" ++ name.text ++ ")"] = .ok [.flag name true] := by
    rw [Item.ofTexts, Item.ofText, Token.scan?_flag]
    cases name <;> rfl
  rw [ConfigBinding.DeclaredField.options, hitems]
  cases name <;> rfl

/-- A field of every sort, one of them written as a raw word. -/
def sampleDeclaration : Declaration where
  form := .named
  fields := [⟨"port", ["config(required)"]⟩, ⟨"common", ["config(flatten)"]⟩,
    ⟨"cache", ["config(ignored)"]⟩, ⟨"r#type", ["config(from_str)"]⟩, ⟨"tls", ["config(nested)"]⟩,
    ⟨"name", []⟩]

theorem plan_fits_fields_sample :
    sampleDeclaration.form = .named ∧ (∀ f ∈ sampleDeclaration.fields, ∃ o, f.options = .ok o) ∧
      ∃ p, sampleDeclaration.plan = .ok p ∧
        p.table =
          [⟨"port", ⟨[("required", "true")]⟩⟩, ⟨"type", ⟨[]⟩⟩, ⟨"tls", ⟨[]⟩⟩, ⟨"name", ⟨[]⟩⟩] ∧
        p.steps =
          [.leaf 0 .kind "port", .embedded "common", .leaf 1 .text "r#type", .nested 2 "tls",
            .leaf 3 .kind "name"] ∧
        p.steps.filterMap Step.index? = List.range p.table.length := by
  have hport := options_flag "port" .required
  have hcommon := options_flag "common" .embedded
  have hcache := options_flag "cache" .ignored
  have htype := options_flag "r#type" .fromText
  have htls := options_flag "tls" .nested
  have hname : (⟨"name", []⟩ : DeclaredField).options = .ok .none := rfl
  have haccepted : ∀ f ∈ sampleDeclaration.fields, ∃ o, f.options = .ok o := by
    simp only [sampleDeclaration, List.forall_mem_cons]
    exact ⟨⟨_, hport⟩, ⟨_, hcommon⟩, ⟨_, hcache⟩, ⟨_, htype⟩, ⟨_, htls⟩, ⟨_, hname⟩,
      List.forall_mem_nil _⟩
  let bound : List BoundField := List.zipWith BoundField.mk sampleDeclaration.fields
    [.ofItems [.flag .required true], .ofItems [.flag .embedded true],
      .ofItems [.flag .ignored true], .ofItems [.flag .fromText true],
      .ofItems [.flag .nested true], .none]
  have hbound : bindAll sampleDeclaration.fields = .ok bound :=
    bindAll_eq_ok_iff.mpr (.cons ⟨rfl, hport⟩ (.cons ⟨rfl, hcommon⟩ (.cons ⟨rfl, hcache⟩
      (.cons ⟨rfl, htype⟩ (.cons ⟨rfl, htls⟩ (.cons ⟨rfl, hname⟩ .nil))))))
  have hcomputed : sampleDeclaration.plan = .ok (Plan.ofFields bound) := plan_of_bindAll rfl hbound
  obtain ⟨p, -, hplan, -, -, hindices, -⟩ := plan_fits_fields rfl haccepted
  obtain rfl : p = Plan.ofFields bound := Except.ok.inj (hplan.symm.trans hcomputed)
  exact ⟨rfl, haccepted, _, hplan, by decide, by decide, hindices⟩

end Declaration

end ConfigBinding
