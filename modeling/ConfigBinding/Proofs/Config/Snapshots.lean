import ConfigBinding.Proofs.Config.SharedKeys
import ConfigBinding.Proofs.Config.Walks
import ConfigBinding.Proofs.Kind.Rendering
import ConfigBinding.Proofs.Snapshot.Reading

/-!
# Snapshots of built configurations

In every run a snapshot has the groups in the order of registration, each with the keys that were
collected from it (`snapshot_keys_run`). Two things follow for those who use it.

* Within a group keys are distinct, so a look-up reaches every field of a group that is the first of
  its name (`lookup_reaches_first_of_name`). Names are labels that nothing checks: behind a group of
  the same name, the fields of a group are out of reach (`second_of_name_unreached`).
* The leaves keep their types (`types_run`). If these are kinds, no shown value breaks its line,
  whatever was read into the leaves. With names and keys that do not break or mimic lines, the text
  of a snapshot is then read as the snapshot and as no other (`snapshot_read_from_text`).
-/

set_option autoImplicit false

namespace ConfigBinding

namespace Schema

theorem map_leaf_bindings (scope : String) (s : Schema Leaf) :
    (s.bindings scope).map Binding.leaf = s.leaves := by
  induction s generalizing scope with
  | nil => rfl
  | leaf label l rest ih => rw [bindings, List.map_cons, ih, leaves]
  | nested label w inner rest ihi ihr => rw [bindings, List.map_append, ihi, ihr, leaves]
  | embedded w inner rest ihi ihr => rw [bindings, List.map_append, ihi, ihr, leaves]

/-- A pass by a visitor that keeps the types of leaves keeps them. -/
theorem map_type_pass {σ ε : Type} {visit : Field → Leaf → σ → Visit σ ε}
    (hv : ∀ f l s, (visit f l s).leaf.type = l.type) (bs : List Binding) (s : σ) :
    (pass visit bs s).bindings.map (·.leaf.type) = bs.map (·.leaf.type) := by
  induction bs generalizing s with
  | nil => rfl
  | cons b bs ih =>
    cases hf : (visit b.field b.leaf s).failure with
    | some e => rw [pass_cons_some hf, List.map_cons, List.map_cons, hv]
    | none => rw [pass_cons_none hf, List.map_cons, List.map_cons, ih, hv]

/-- What is shown of a leaf of a kind is printable. -/
theorem printable_shownValue {l : Leaf} (h : ∃ k, l.type = .kind k) (order : EntryOrder)
    (f : Field) : Text.Printable (shownValue order f l).toList := by
  obtain ⟨type, value⟩ := l
  obtain ⟨k, rfl⟩ := h
  unfold shownValue
  split
  · decide
  · exact Kind.printable_render k order value

end Schema

namespace Config

/-! ## Look-ups -/

/-- In a run a snapshot has the groups with the keys that are collected from them. -/
theorem snapshot_keys_run (s : Settings) (groups : List (String × Schema Leaf))
    (steps : List (World × Operation)) :
    ((fresh s groups).run steps).1.snapshot.2.keys =
      groups.map fun g => (g.1, collectedKeys s.scope g) := by
  rw [Snapshot.keys, ((Collects.fresh s groups).run steps).snapshot_keys, List.map_map]
  rfl

section
variable {s : Settings} {groups : List (String × Schema Leaf)}

/-- In a run a snapshot has a value for each field at its place, under the field's key. -/
theorem exists_shown {i j : Nat} {g : String × Schema Leaf} {f : Field}
    (hi : groups[i]? = some g) (hj : (g.2.collect s.scope).2[j]? = some f)
    (steps : List (World × Operation)) :
    ∃ shown text, ((fresh s groups).run steps).1.snapshot.2.groups[i]? = some shown ∧
      shown.name = g.1 ∧ shown.values.map Prod.fst = collectedKeys s.scope g ∧
      shown.values[j]? = some (f.key, text) := by
  have hgroup := congrArg (·[i]?) (snapshot_keys_run s groups steps)
  simp only [Snapshot.keys, List.getElem?_map, hi, Option.map_some] at hgroup
  obtain ⟨shown, hshown, hsame⟩ := Option.map_eq_some_iff.mp hgroup
  obtain ⟨hname, hkeys⟩ := Prod.mk.inj hsame
  have hfield := congrArg (·[j]?) hkeys
  simp only [collectedKeys, List.getElem?_map, hj, Option.map_some] at hfield
  obtain ⟨v, hv, hkey⟩ := Option.map_eq_some_iff.mp hfield
  exact ⟨shown, v.2, hshown, hname, hkeys, by rw [hv, ← hkey]⟩

/-- In a run a look-up finds nothing exactly if the first group of the name, if there is one, has no
field of the key. -/
theorem get?_snapshot_run_eq_none_iff {steps : List (World × Operation)} {name key : String} :
    ((fresh s groups).run steps).1.snapshot.2.get? name key = none ↔
      ∀ i g, groups[i]? = some g → g.1 = name → name ∉ (groups.map Prod.fst).take i →
        key ∉ collectedKeys s.scope g := by
  rw [Snapshot.get?_eq_none_iff, snapshot_keys_run, List.map_map]
  constructor
  · rintro h i g hi rfl
    exact h i _ (by rw [List.getElem?_map, hi]; rfl)
  · intro h i keys hi
    rw [List.getElem?_map] at hi
    obtain ⟨g, hg, hsame⟩ := Option.map_eq_some_iff.mp hi
    obtain ⟨hname, rfl⟩ := Prod.mk.inj hsame
    exact h i g hg hname

end

/-- **Look-ups reach the first group of a name.** In a run of a built configuration a snapshot has,
for every field of every group, its key and a shown value at its place. A look-up of the field by
the name of its group gives that very value if no earlier group has the name. It gives nothing
exactly if the first group of the name, if there is one, has no field of the key. Where the names of
groups are distinct, the pairs of a group and one of its keys are all found, and no others. -/
theorem lookup_reaches_first_of_name {s : Settings} {groups : List (String × Schema Leaf)}
    {c : Config} (hbuild : (build s groups).result = .ok c) (steps : List (World × Operation)) :
    let shot := (c.run steps).1.snapshot.2
    let recorded := fun i j => shot.groups[i]?.bind fun g => g.values[j]?
    let names := groups.map Prod.fst
    (∀ (i j : Nat) (g : String × Schema Leaf) (f : Field),
      groups[i]? = some g → (g.2.collect s.scope).2[j]? = some f →
        ∃ text, recorded i j = some (f.key, text) ∧
          (g.1 ∉ names.take i → shot.get? g.1 f.key = some text)) ∧
      (∀ name key, shot.get? name key = none ↔
        ∀ (i : Nat) (g : String × Schema Leaf),
          groups[i]? = some g → g.1 = name → name ∉ names.take i → key ∉ collectedKeys s.scope g) ∧
      (names.Nodup →
        (∀ (i : Nat) (g : String × Schema Leaf), groups[i]? = some g → g.1 ∉ names.take i) ∧
          ∀ name key, shot.get? name key = none ↔
            ∀ g ∈ groups, g.1 = name → key ∉ collectedKeys s.scope g) := by
  intro shot recorded names
  have hdistinct : ∀ g ∈ groups, (collectedKeys s.scope g).Nodup := fun g hg =>
    (collectedKeys_eq s.scope g).symm ▸ exists_build_iff.mp ⟨c, hbuild⟩ g hg
  obtain ⟨-, rfl⟩ := build_eq_ok_iff.mp hbuild
  have hnames : shot.groups.map GroupSnapshot.name = names := by
    have hkeys := congrArg (List.map Prod.fst) (snapshot_keys_run s groups steps)
    simpa [Snapshot.keys, Function.comp_def] using hkeys
  have hfirst : names.Nodup → ∀ (i : Nat) (g : String × Schema Leaf),
      groups[i]? = some g → g.1 ∉ names.take i := fun hnodup i g hi =>
    not_mem_take_of_nodup hnodup (by rw [List.getElem?_map, hi]; rfl)
  refine ⟨fun i j g f hi hj => ?_, fun name key => get?_snapshot_run_eq_none_iff,
    fun hnodup => ⟨hfirst hnodup, fun name key => ?_⟩⟩
  · obtain ⟨shown, text, hshown, hname, hkeys, hvalue⟩ := exists_shown hi hj steps
    refine ⟨text, by simp [recorded, shot, hshown, hvalue], fun hunseen => ?_⟩
    have hnodup : (shown.values.map Prod.fst).Nodup :=
      hkeys ▸ hdistinct g (List.mem_of_getElem? hi)
    exact Snapshot.get?_eq_some_iff.mpr ⟨i, shown, hshown, hname, by rwa [hnames],
      Snapshot.lookup_of_getElem? hnodup hvalue⟩
  · rw [get?_snapshot_run_eq_none_iff]
    constructor
    · intro h g hg hname
      obtain ⟨i, hi⟩ := List.mem_iff_getElem?.mp hg
      exact h i g hi hname (hname ▸ hfirst hnodup i g hi)
    · exact fun h i g hi hname _ => h g (List.mem_of_getElem? hi) hname

/-- After a load of the sample groups, the token is found in its own group and not in the other. -/
theorem lookup_reaches_first_of_name_sample :
    let s := sampleSettings (Environment.ofPairs [("PORT", "9000")])
    let c := fresh s sampleGroups
    let shot := (c.run [(sampleWorld, .load)]).1.snapshot.2
    (build s sampleGroups).result = .ok c ∧
      (∃ text, (shot.groups[1]?.bind fun g => g.values[1]?) = some ("TOKEN", text) ∧
        shot.get? "worker" "TOKEN" = some text) ∧
      shot.get? "server" "TOKEN" = none := by
  intro s c shot
  have hbuild : (build s sampleGroups).result = .ok c := build_eq_ok_iff.mpr ⟨by decide, rfl⟩
  obtain ⟨hreached, -, hdistinct⟩ := lookup_reaches_first_of_name hbuild [(sampleWorld, .load)]
  obtain ⟨hfirst, hnone⟩ := hdistinct (by decide)
  obtain ⟨text, hrecorded, hfound⟩ := hreached 1 1 _ _ rfl rfl
  exact ⟨hbuild, ⟨text, hrecorded, hfound (hfirst 1 _ rfl)⟩, (hnone _ _).mpr (by decide)⟩

/-- Of two groups of one name, a snapshot has the field of the second, and a look-up does not. -/
theorem second_of_name_unreached :
    let groups :=
      [("app", Schema.ofLeaves [(⟨"port", Tags.empty⟩, Leaf.new (.kind (.int .u16)))]),
        ("app", Schema.ofLeaves [(⟨"host", Tags.empty⟩, Leaf.new (.kind .text))])]
    let c := fresh .default groups
    (build .default groups).result = .ok c ∧
      c.groups.map (fun g => (g.name, g.fields.map Field.key)) =
        [("app", ["PORT"]), ("app", ["HOST"])] ∧
      c.snapshot.2.groups[1]? = some ⟨"app", [("HOST", "\"\"")]⟩ ∧
      c.snapshot.2.get? "app" "HOST" = none :=
  ⟨build_eq_ok_iff.mpr ⟨by decide, rfl⟩, by decide, by decide, by decide⟩

/-! ## The types of leaves -/

variable {c : Config}

theorem types_load (w : World) (c : Config) :
    (c.load w).config.bindings.map (·.leaf.type) = c.bindings.map (·.leaf.type) := by
  obtain h | h | ⟨e, h⟩ := config_load_cases w c
  · rw [h]
  · rw [h]
    rfl
  · have hseen := resolveGroups_seen (c.resolver w e) c.scope c.groups c.beforeResolving
    have hbindings : (c.afterResolving e (c.resolved w e)).bindings =
        (Schema.pass (c.resolver w e).visit c.bindings c.beforeResolving).bindings :=
      congrArg Schema.Pass.bindings hseen
    rw [h, hbindings, Schema.map_type_pass (c.resolver w e).type_visit]

theorem types_perform (w : World) (op : Operation) :
    (c.perform w op).1.bindings.map (·.leaf.type) = c.bindings.map (·.leaf.type) := by
  cases op with
  | load => exact types_load w c
  | snapshot => simp only [perform, snapshot_eq, bindings_rewrap]
  | logResolved => simp only [perform, logResolved, snapshot_eq, bindings_rewrap]
  | usage => rfl
  | stage => rfl
  | environment => rfl

/-- A run keeps the types of leaves. -/
theorem types_run (steps : List (World × Operation)) :
    (c.run steps).1.bindings.map (·.leaf.type) = c.bindings.map (·.leaf.type) := by
  induction steps generalizing c with
  | nil => rfl
  | cons step steps ih => exact ih.trans (types_perform step.1 step.2)

/-- The leaves of a configuration in a run have types that the leaves of its groups have. -/
theorem exists_leaf_of_mem_bindings_run {s : Settings} {groups : List (String × Schema Leaf)}
    {steps : List (World × Operation)} {x : Binding}
    (h : x ∈ ((fresh s groups).run steps).1.bindings) :
    ∃ g ∈ groups, ∃ l ∈ g.2.leaves, l.type = x.leaf.type := by
  have htype : x.leaf.type ∈ (fresh s groups).bindings.map (·.leaf.type) := by
    rw [← types_run steps]
    exact List.mem_map_of_mem h
  rw [bindings_fresh] at htype
  obtain ⟨y, hy, hsame⟩ := List.mem_map.mp htype
  obtain ⟨g, hg, hyg⟩ := List.mem_flatMap.mp hy
  refine ⟨g, hg, y.leaf, ?_, hsame⟩
  rw [← Schema.map_leaf_bindings s.scope]
  exact List.mem_map_of_mem hyg

/-! ## The text -/

/-- A value that a snapshot shows is that of a leaf. -/
theorem exists_binding_of_mem_snapshot {g : GroupSnapshot} (hg : g ∈ c.snapshot.2.groups)
    {v : String × String} (hv : v ∈ g.values) :
    ∃ x ∈ c.bindings, ∃ order, v = (x.field.key, Schema.shownValue order x.field x.leaf) := by
  rw [snapshot_eq] at hg
  obtain ⟨i, hi, rfl⟩ := List.mem_mapIdx.mp hg
  obtain ⟨x, hx, rfl⟩ := List.mem_map.mp hv
  exact ⟨x, List.mem_flatMap.mpr ⟨_, List.getElem_mem hi, hx⟩, _, rfl⟩

/-- Groups whose names and keys neither break nor mimic lines, and whose leaves are of kinds, are
legible in the snapshots of every run. -/
theorem legible_snapshot_run {s : Settings} {groups : List (String × Schema Leaf)}
    (hnames : ∀ g ∈ groups, '\n' ∉ g.1.toList ∧ ¬ [' ', ' '] <+: g.1.toList)
    (hkeys : ∀ g ∈ groups, ∀ key ∈ collectedKeys s.scope g, '\n' ∉ key.toList ∧ '=' ∉ key.toList)
    (hkinds : ∀ g ∈ groups, ∀ l ∈ g.2.leaves, ∃ k, l.type = .kind k)
    (steps : List (World × Operation)) :
    ∀ g ∈ ((fresh s groups).run steps).1.snapshot.2.groups, g.Legible := by
  intro g hg
  obtain ⟨named, hnamed, hsame⟩ : ∃ named ∈ groups,
      (named.1, collectedKeys s.scope named) = (g.name, g.values.map Prod.fst) := by
    rw [← List.mem_map, ← snapshot_keys_run s groups steps]
    exact List.mem_map_of_mem hg
  obtain ⟨hname, hgkeys⟩ := Prod.mk.inj hsame
  obtain ⟨hbreak, hindent⟩ := hnames named hnamed
  refine ⟨hname ▸ hbreak, hname ▸ hindent, fun v hv => ?_, fun v hv => ?_⟩
  · exact hkeys named hnamed v.1 (hgkeys ▸ List.mem_map_of_mem hv)
  · obtain ⟨x, hx, order, rfl⟩ := exists_binding_of_mem_snapshot hg hv
    obtain ⟨group, hgroup, l, hl, htype⟩ := exists_leaf_of_mem_bindings_run hx
    have hkind : ∃ k, x.leaf.type = .kind k := htype ▸ hkinds group hgroup l hl
    exact (Schema.printable_shownValue hkind order x.field).newline_not_mem

/-- **Shown values cannot forge lines.** Let the names of groups and the keys of fields hold no line
break, the names not begin with two spaces and the keys hold no equals sign, and let every leaf be
of a kind. Whatever a run has read into the leaves, the text of a snapshot has one line for each
group and each field; it is read as the names of the groups with their keys and shown values, and it
is the text of no other snapshot of such names and keys with values that stay in their lines. -/
theorem snapshot_read_from_text {s : Settings} {groups : List (String × Schema Leaf)}
    (hbuild : (build s groups).result = .ok c)
    (hnames : ∀ g ∈ groups, '\n' ∉ g.1.toList ∧ ¬ [' ', ' '] <+: g.1.toList)
    (hkeys : ∀ g ∈ groups, ∀ key ∈ collectedKeys s.scope g, '\n' ∉ key.toList ∧ '=' ∉ key.toList)
    (hkinds : ∀ g ∈ groups, ∀ l ∈ g.2.leaves, ∃ k, l.type = .kind k)
    (steps : List (World × Operation)) :
    let shot := (c.run steps).1.snapshot.2
    shot.keys = groups.map (fun g => (g.1, collectedKeys s.scope g)) ∧
      Text.pieces '\n' shot.render = shot.lines ++ [""] ∧
      shot.lines.length = groups.length + (groups.flatMap (collectedKeys s.scope)).length ∧
      Snapshot.ofText shot.render = shot ∧
      ∀ other : Snapshot, (∀ g ∈ other.groups, g.Legible) → other.render = shot.render →
        other = shot := by
  intro shot
  obtain ⟨-, rfl⟩ := build_eq_ok_iff.mp hbuild
  have hshape : shot.keys = groups.map fun g => (g.1, collectedKeys s.scope g) :=
    snapshot_keys_run s groups steps
  have hlegible : ∀ g ∈ shot.groups, g.Legible := legible_snapshot_run hnames hkeys hkinds steps
  have hread : Snapshot.ofText shot.render = shot := Snapshot.ofText_render hlegible
  refine ⟨hshape, Snapshot.pieces_render hlegible, ?_, hread, fun other hother hsame => ?_⟩
  · rw [Snapshot.length_lines, hshape, List.length_map, List.flatMap_map]
  · rw [← Snapshot.ofText_render hother, hsame, hread]

/-- A text that tries to look like a group with a value of its own is shown within its line. -/
theorem snapshot_read_from_text_sample :
    let s := { Settings.default with
      environment := some (Environment.ofPairs [("HOST", "a\nroot:\n  ADMIN=yes")]) }
    let groups := [("app", Schema.ofLeaves [(⟨"host", Tags.empty⟩, Leaf.new (.kind .text))])]
    let c := fresh s groups
    let shot := (c.run [(sampleWorld, .load)]).1.snapshot.2
    (build s groups).result = .ok c ∧
      shot.render = "app:\n  HOST=\"a\\nroot:\\n  ADMIN=yes\"\n" ∧
      shot.lines.length = 2 ∧
      Snapshot.ofText shot.render = shot := by
  intro s groups c shot
  have hbuild : (build s groups).result = .ok c := build_eq_ok_iff.mpr ⟨by decide, rfl⟩
  have hkinds : ∀ g ∈ groups, ∀ l ∈ g.2.leaves, ∃ k, l.type = .kind k := by
    simp [groups, Schema.ofLeaves, Schema.leaves, Leaf.new]
  obtain ⟨-, -, hlines, hread, -⟩ := snapshot_read_from_text hbuild (by decide) (by decide) hkinds
    [(sampleWorld, .load)]
  exact ⟨hbuild, by decide +kernel, hlines.trans (by decide), hread⟩

end Config

end ConfigBinding
