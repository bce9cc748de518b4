import Mathlib.Data.List.Nodup
import ConfigBinding.Yaml.Decoder

/-!
# What decoders read

The shapes that nodes can have, as relations: a node has a shape, something is read of it, and a
number of aliases is followed on the way. A decoder spends what a relation says (`Decoder.Spends`)
if it reads what the relation relates and takes its number off those that may still be followed.
This goes along with sequencing (`Spends.bind`), so each decoder comes to the relation for its
shape, and a whole document is read exactly if it has the shape within its allowance of aliases
(`Decoder.Spends.run_eq_some_iff`).
-/

set_option autoImplicit false

namespace ConfigBinding.Yaml

variable {α β : Type}

/-! ## Shapes -/

section
variable (anchors : List (Nat × Node))

/-- A node stands for a scalar or a collection: itself, that behind its anchor, or that behind an
alias. -/
inductive Stands : Node → Node → Nat → Prop
  | scalar (isPlain : Bool) (tag : Option Tag) (cs : List Char) :
      Stands (.scalar isPlain tag cs) (.scalar isPlain tag cs) 0
  | sequence (tag : Option Tag) (items : List Node) :
      Stands (.sequence tag items) (.sequence tag items) 0
  | mapping (tag : Option Tag) (entries : List (Node × Node)) :
      Stands (.mapping tag entries) (.mapping tag entries) 0
  | anchored (number : Nat) (node : Node) : Stands (.anchored number node) node 0
  | reference {number : Nat} {node : Node} : Decoder.lastOf? anchors number = some node →
      Stands (.reference number) node 1

/-- A node is a scalar with a text. -/
inductive IsText : Node → String → Nat → Prop
  | scalar {node : Node} {isPlain : Bool} {tag : Option Tag} {cs : List Char} {n : Nat} :
      Stands anchors node (.scalar isPlain tag cs) n → IsText node (String.ofList cs) n

/-- A node is null, or has a shape. -/
inductive IsOptional (R : Node → α → Nat → Prop) : Node → Option α → Nat → Prop
  | absent {node body : Node} {n : Nat} : Stands anchors node body n →
      Decoder.isAbsent? body = some true → IsOptional R node none n
  | present {node body : Node} {a : α} {i j : Nat} : Stands anchors node body i →
      Decoder.isAbsent? body = some false → R body a j → IsOptional R node (some a) (i + j)

/-- The elements of a list have a shape, one by one. -/
inductive Each (R : α → β → Nat → Prop) : List α → List β → Nat → Prop
  | nil : Each R [] [] 0
  | cons {a : α} {b : β} {as : List α} {bs : List β} {i j : Nat} : R a b i → Each R as bs j →
      Each R (a :: as) (b :: bs) (i + j)

/-- A node is a collection of one form; an omitted node is an empty one. -/
inductive Collects {γ : Type} (form : Option Tag → List γ → Node) : Node → List γ → Nat → Prop
  | omitted {node : Node} {tag : Option Tag} {n : Nat} :
      Stands anchors node (.scalar true tag []) n → Collects form node [] n
  | collection {node : Node} {tag : Option Tag} {members : List γ} {n : Nat} :
      Stands anchors node (form tag members) n → Collects form node members n

/-- A node is a sequence of nodes that have a shape. -/
inductive IsList (R : Node → α → Nat → Prop) : Node → List α → Nat → Prop
  | intro {node : Node} {items : List Node} {as : List α} {i j : Nat} :
      Collects anchors .sequence node items i → Each R items as j → IsList R node as (i + j)

/-- The known ones among the entries with the given names. -/
def knownFields (known names : List String) (entries : List (Node × Node)) : List (String × Node) :=
  (names.zip (entries.map (·.2))).filter fun field => known.contains field.1

/-- A node is a structure: every key is a text, and none that is known occurs twice. Its fields are
the known ones. -/
inductive HasFields (known : List String) : Node → List (String × Node) → Nat → Prop
  | intro {node : Node} {entries : List (Node × Node)} {names : List String} {i j : Nat} :
      Collects anchors .mapping node entries i → Each (IsText anchors) (entries.map (·.1)) names j →
      (names.filter (known.contains ·)).Nodup →
      HasFields known node (knownFields known names entries) (i + j)

end

/-- A field has a shape, or is missing and gives the default. -/
inductive HasFieldOr (fields : List (String × Node)) (name : String) (default : α)
    (R : Node → α → Nat → Prop) : α → Nat → Prop
  | there {node : Node} {a : α} {n : Nat} : fields.lookup name = some node → R node a n →
      HasFieldOr fields name default R a n
  | missing : fields.lookup name = none → HasFieldOr fields name default R default 0

/-- A field is there and has a shape. -/
inductive HasField (fields : List (String × Node)) (name : String) (R : Node → α → Nat → Prop) :
    α → Nat → Prop
  | intro {node : Node} {a : α} {n : Nat} : fields.lookup name = some node → R node a n →
      HasField fields name R a n

/-- What the fields of a path lead to has a shape; if a field is missing, the default is read. -/
def AtPath (anchors : List (Nat × Node)) (default : α) (R : Node → α → Nat → Prop) :
    List String → Node → α → Nat → Prop
  | [], node, a, n => R node a n
  | name :: path, node, a, n => ∃ fields i j, HasFields anchors [name] node fields i ∧
      HasFieldOr fields name default (AtPath anchors default R path) a j ∧ n = i + j

theorem Each.length_eq {R : α → β → Nat → Prop} {as : List α} {bs : List β} {n : Nat}
    (h : Each R as bs n) : as.length = bs.length := by
  induction h with
  | nil => rfl
  | cons _ _ ih => rw [List.length_cons, List.length_cons, ih]

namespace Decoder

/-! ## Spending -/

variable {anchors : List (Nat × Node)}

/-- A reader reads `a` and takes `n` off the aliases that may be followed exactly if `R a n`. -/
def Spends (d : Decoder α) (anchors : List (Nat × Node)) (R : α → Nat → Prop) : Prop :=
  ∀ left a left', d anchors left = some (a, left') ↔ ∃ n, left = n + left' ∧ R a n

namespace Spends

theorem congr {d : Decoder α} {R S : α → Nat → Prop} (h : Spends d anchors R)
    (hRS : ∀ a n, R a n ↔ S a n) : Spends d anchors S := by
  intro left a left'
  rw [h left a left']
  simp only [hRS]

theorem pure (a : α) : Spends (Pure.pure a) anchors fun b n => b = a ∧ n = 0 := by
  intro left b left'
  show some (a, left) = some (b, left') ↔ _
  rw [Option.some.injEq, Prod.mk.injEq]
  constructor
  · rintro ⟨rfl, rfl⟩
    exact ⟨0, (Nat.zero_add _).symm, rfl, rfl⟩
  · rintro ⟨n, hleft, rfl, rfl⟩
    exact ⟨rfl, hleft.trans (Nat.zero_add _)⟩

theorem fail : Spends (Decoder.fail (α := α)) anchors fun _ _ => False := by
  intro left a left'
  show none = some (a, left') ↔ _
  simp

theorem ofOption (o : Option α) :
    Spends (Decoder.ofOption o) anchors fun a n => o = some a ∧ n = 0 := by
  cases o with
  | none => exact fail.congr (by simp)
  | some b => exact (pure b).congr (by simp [eq_comm])

/-- What is read first and what is read then, at the cost of both. -/
theorem bind {d : Decoder α} {f : α → Decoder β} {R : α → Nat → Prop} {S : α → β → Nat → Prop}
    (hd : Spends d anchors R) (hf : ∀ a, Spends (f a) anchors (S a)) :
    Spends (d >>= f) anchors fun b n => ∃ a i j, R a i ∧ S a b j ∧ n = i + j := by
  intro left b left'
  have hbind : (d >>= f) anchors left = (d anchors left).bind fun p => f p.1 anchors p.2 := by
    simp only [Bind.bind]
    cases d anchors left <;> rfl
  rw [hbind, Option.bind_eq_some_iff]
  constructor
  · rintro ⟨⟨a, rest⟩, hread, h⟩
    obtain ⟨i, hi, hR⟩ := (hd _ _ _).mp hread
    obtain ⟨j, hj, hS⟩ := (hf a _ _ _).mp h
    exact ⟨i + j, by omega, a, i, j, hR, hS, rfl⟩
  · rintro ⟨n, hleft, a, i, j, hR, hS, rfl⟩
    have hread : d anchors left = some (a, j + left') := (hd _ _ _).mpr ⟨i, by omega, hR⟩
    exact ⟨_, hread, (hf a _ _ _).mpr ⟨j, rfl, hS⟩⟩

theorem map {d : Decoder α} {R : α → Nat → Prop} (f : α → β) (hd : Spends d anchors R) :
    Spends (f <$> d) anchors fun b n => ∃ a, R a n ∧ b = f a := by
  refine (hd.bind fun a => pure (f a)).congr fun b n => ?_
  constructor
  · rintro ⟨a, i, j, hR, ⟨rfl, rfl⟩, rfl⟩
    exact ⟨a, hR, rfl⟩
  · rintro ⟨a, hR, rfl⟩
    exact ⟨a, n, 0, hR, ⟨rfl, rfl⟩, rfl⟩

/-- A document is read if it has the shape and does not take more aliases than it may. -/
theorem run_eq_some_iff {d : Decoder α} {root : Node} {R : α → Nat → Prop}
    (h : Spends d root.anchors R) {a : α} :
    d.run root = some a ↔ ∃ n ≤ 100 * root.weight, R a n := by
  unfold run
  rw [Option.map_eq_some_iff]
  constructor
  · rintro ⟨⟨b, left⟩, hread, rfl⟩
    obtain ⟨n, hn, hR⟩ := (h _ _ _).mp hread
    exact ⟨n, by omega, hR⟩
  · rintro ⟨n, hn, hR⟩
    exact ⟨(a, 100 * root.weight - n), (h _ _ _).mpr ⟨n, by omega, hR⟩, rfl⟩

end Spends

/-! ## Decoders and shapes -/

theorem spends_resolve (node : Node) : Spends (resolve node) anchors (Stands anchors node) := by
  cases node with
  | reference number =>
    intro left body left'
    simp only [resolve]
    constructor
    · intro h
      split at h
      · rename_i left node hnode
        obtain ⟨rfl, rfl⟩ := Prod.mk.inj (Option.some.inj h)
        exact ⟨1, Nat.add_comm left 1, .reference hnode⟩
      · cases h
    · rintro ⟨n, rfl, h⟩
      cases h with
      | reference hnode => rw [Nat.add_comm, hnode]
  | _ =>
    refine (Spends.pure _).congr fun body n => ⟨?_, ?_⟩
    · rintro ⟨rfl, rfl⟩
      constructor
    · rintro ⟨⟩
      exact ⟨rfl, rfl⟩

theorem spends_text (node : Node) : Spends (text node) anchors (IsText anchors node) := by
  have htext : Spends (text node) anchors _ := Spends.bind (S := fun body s n => n = 0 ∧
    ∃ isPlain tag cs, body = .scalar isPlain tag cs ∧ s = String.ofList cs) (spends_resolve node)
    (by
      intro body
      cases body with
      | scalar isPlain tag cs => exact (Spends.pure _).congr (by simp [and_comm])
      | _ => exact Spends.fail.congr (by simp))
  refine htext.congr fun s n => ⟨?_, ?_⟩
  · rintro ⟨_, i, _, hstands, ⟨rfl, isPlain, tag, cs, rfl, rfl⟩, rfl⟩
    exact .scalar hstands
  · rintro ⟨hstands⟩
    exact ⟨_, _, 0, hstands, ⟨rfl, _, _, _, rfl, rfl⟩, rfl⟩

theorem spends_optional {read : Node → Decoder α} {R : Node → α → Nat → Prop}
    (hread : ∀ node, Spends (read node) anchors (R node)) (node : Node) :
    Spends (optional read node) anchors (IsOptional anchors R node) := by
  have hoptional : Spends (optional read node) anchors _ := (spends_resolve node).bind fun body =>
    (Spends.ofOption (isAbsent? body)).bind (S := fun isAbsent a n =>
      isAbsent = true ∧ a = none ∧ n = 0 ∨ isAbsent = false ∧ ∃ b, R body b n ∧ a = some b)
    (by
      intro isAbsent
      cases isAbsent with
      | true => exact (Spends.pure none).congr (by simp)
      | false => exact ((hread body).map some).congr (by simp))
  refine hoptional.congr fun a n => ⟨?_, ?_⟩
  · rintro ⟨body, i, _, hstands, ⟨isAbsent, _, j, ⟨habsent, rfl⟩, hbody, rfl⟩, rfl⟩
    rw [Nat.zero_add]
    rcases hbody with ⟨rfl, rfl, rfl⟩ | ⟨rfl, b, hb, rfl⟩
    · exact .absent hstands habsent
    · exact .present hstands habsent hb
  · intro h
    cases h with
    | absent hstands habsent =>
      exact ⟨_, n, 0, hstands, ⟨true, 0, 0, ⟨habsent, rfl⟩, .inl ⟨rfl, rfl, rfl⟩, rfl⟩, rfl⟩
    | @present _ b i j hstands hpresent hb =>
      exact ⟨_, i, j, hstands, ⟨false, 0, j, ⟨hpresent, rfl⟩, .inr ⟨rfl, b, hb, rfl⟩,
        (Nat.zero_add j).symm⟩, rfl⟩

theorem spends_each {read : α → Decoder β} {R : α → β → Nat → Prop}
    (hread : ∀ a, Spends (read a) anchors (R a)) (as : List α) :
    Spends (each read as) anchors (Each R as) := by
  induction as with
  | nil =>
    refine (Spends.pure _).congr fun bs n => ⟨?_, ?_⟩
    · rintro ⟨rfl, rfl⟩
      exact .nil
    · rintro ⟨⟩
      exact ⟨rfl, rfl⟩
  | cons a as ih =>
    refine ((hread a).bind fun b => ih.bind fun bs => .pure (b :: bs)).congr fun bs n => ⟨?_, ?_⟩
    · rintro ⟨b, i, _, hb, ⟨bs, j, _, hbs, ⟨rfl, rfl⟩, rfl⟩, rfl⟩
      exact .cons hb hbs
    · intro h
      cases h with
      | @cons _ b _ bs i j hb hbs => exact ⟨b, i, j, hb, ⟨bs, j, 0, hbs, ⟨rfl, rfl⟩, rfl⟩, rfl⟩

/-- A decoder of collections takes the members of a form, and nothing from an omitted node. -/
theorem spends_collection {γ : Type} {form : Option Tag → List γ → Node}
    {pick : Node → Decoder (List γ)}
    (hpick : ∀ body, Spends (pick body) anchors fun members n => n = 0 ∧
      ((∃ tag, body = form tag members) ∨ (∃ tag, body = .scalar true tag []) ∧ members = []))
    (node : Node) : Spends (resolve node >>= pick) anchors (Collects anchors form node) := by
  refine ((spends_resolve node).bind hpick).congr fun members n => ⟨?_, ?_⟩
  · rintro ⟨_, i, _, hstands, ⟨rfl, ⟨tag, rfl⟩ | ⟨⟨tag, rfl⟩, rfl⟩⟩, rfl⟩
    · exact .collection hstands
    · exact .omitted hstands
  · intro h
    cases h with
    | omitted hstands => exact ⟨_, n, 0, hstands, ⟨rfl, .inr ⟨⟨_, rfl⟩, rfl⟩⟩, rfl⟩
    | collection hstands => exact ⟨_, n, 0, hstands, ⟨rfl, .inl ⟨_, rfl⟩⟩, rfl⟩

theorem spends_entries (node : Node) :
    Spends (entries node) anchors (Collects anchors .mapping node) := by
  refine spends_collection (fun body => ?_) node
  split
  · exact (Spends.pure _).congr (by simp [and_comm, eq_comm])
  · exact (Spends.pure _).congr (by simp [and_comm])
  · rename_i hmapping homitted
    refine Spends.fail.congr fun members n => ⟨nofun, ?_⟩
    rintro ⟨-, ⟨tag, rfl⟩ | ⟨⟨tag, rfl⟩, -⟩⟩
    · exact hmapping _ _ rfl
    · exact homitted _ rfl

theorem spends_items (node : Node) :
    Spends (items node) anchors (Collects anchors .sequence node) := by
  refine spends_collection (fun body => ?_) node
  split
  · exact (Spends.pure _).congr (by simp [and_comm, eq_comm])
  · exact (Spends.pure _).congr (by simp [and_comm])
  · rename_i hsequence homitted
    refine Spends.fail.congr fun members n => ⟨nofun, ?_⟩
    rintro ⟨-, ⟨tag, rfl⟩ | ⟨⟨tag, rfl⟩, -⟩⟩
    · exact hsequence _ _ rfl
    · exact homitted _ rfl

theorem spends_list {read : Node → Decoder α} {R : Node → α → Nat → Prop}
    (hread : ∀ node, Spends (read node) anchors (R node)) (node : Node) :
    Spends (do each read (← items node)) anchors (IsList anchors R node) := by
  refine ((spends_items node).bind fun nodes => spends_each hread nodes).congr fun as n => ⟨?_, ?_⟩
  · rintro ⟨nodes, i, j, hitems, heach, rfl⟩
    exact .intro hitems heach
  · rintro ⟨hitems, heach⟩
    exact ⟨_, _, _, hitems, heach, rfl⟩

/-- The names of the known fields are the known names. -/
theorem map_fst_known {known names : List String} {entries : List (Node × Node)} {n : Nat}
    (h : Each (IsText anchors) (entries.map (·.1)) names n) :
    (knownFields known names entries).map (·.1) = names.filter (known.contains ·) := by
  have hlength : names.length ≤ (entries.map (·.2)).length := by
    have := h.length_eq
    simp only [List.length_map] at this ⊢
    omega
  unfold knownFields
  rw [← List.map_fst_zip hlength, List.filter_map, List.map_fst_zip hlength]
  rfl

theorem spends_fieldsAmong (known : List String) (entries : List (Node × Node)) :
    Spends (fieldsAmong known entries) anchors fun fields n => ∃ names,
      Each (IsText anchors) (entries.map (·.1)) names n ∧
        (names.filter (known.contains ·)).Nodup ∧ fields = knownFields known names entries := by
  induction entries with
  | nil =>
    refine (Spends.pure _).congr fun fields n => ⟨?_, ?_⟩
    · rintro ⟨rfl, rfl⟩
      exact ⟨[], .nil, List.nodup_nil, rfl⟩
    · rintro ⟨_, ⟨⟩, -, rfl⟩
      exact ⟨rfl, rfl⟩
  | cons entry entries ih =>
    obtain ⟨key, node⟩ := entry
    have hadd : ∀ (name : String) (fields : List (String × Node)),
        Spends (if !known.contains name then Pure.pure fields
          else if fields.any (·.1 == name) then fail
          else Pure.pure ((name, node) :: fields)) anchors fun all n => n = 0 ∧
            if known.contains name then name ∉ fields.map (·.1) ∧ all = (name, node) :: fields
            else all = fields := by
      intro name fields
      cases hknown : known.contains name with
      | false => exact (Spends.pure _).congr (by simp [and_comm])
      | true =>
        by_cases hname : name ∈ fields.map (·.1)
        · have hany : fields.any (·.1 == name) = true := by simpa using hname
          rw [hany]
          exact Spends.fail.congr (by simp [hname])
        · have hany : fields.any (·.1 == name) = false := by
            rw [Bool.eq_false_iff]
            intro h
            obtain ⟨field, hfield, heq⟩ := List.any_eq_true.mp h
            exact hname (List.mem_map.mpr ⟨field, hfield, eq_of_beq heq⟩)
          rw [hany]
          exact (Spends.pure _).congr (by simp [hname, and_comm])
    refine ((spends_text key).bind fun name => ih.bind fun fields => hadd name fields).congr
      fun all n => ⟨?_, ?_⟩
    · rintro ⟨name, i, _, hkey, ⟨fields, j, _, ⟨names, hkeys, hnodup, rfl⟩, ⟨rfl, hall⟩, rfl⟩, rfl⟩
      rw [map_fst_known hkeys] at hall
      refine ⟨name :: names, .cons hkey hkeys, ?_⟩
      simp only [knownFields, List.filter_cons, List.map_cons, List.zip_cons_cons]
      split_ifs at hall ⊢ with hknown
      · exact ⟨List.nodup_cons.mpr ⟨hall.1, hnodup⟩, hall.2⟩
      · exact ⟨hnodup, hall⟩
    · rintro ⟨_, hkeys, hnodup, rfl⟩
      cases hkeys with
      | @cons _ name _ names i j hkey hkeys =>
        refine ⟨name, i, j, hkey, ⟨_, j, 0, ⟨names, hkeys, ?_, rfl⟩, ⟨rfl, ?_⟩, rfl⟩, rfl⟩
        · exact hnodup.sublist ((List.sublist_cons_self _ _).filter _)
        · rw [map_fst_known hkeys]
          simp only [knownFields, List.filter_cons, List.map_cons, List.zip_cons_cons] at hnodup ⊢
          split_ifs at hnodup ⊢ with hknown
          · exact ⟨(List.nodup_cons.mp hnodup).1, rfl⟩
          · rfl

theorem spends_fields (known : List String) (node : Node) :
    Spends (fields known node) anchors (HasFields anchors known node) := by
  refine ((spends_entries node).bind fun entries => spends_fieldsAmong known entries).congr
    fun fields n => ⟨?_, ?_⟩
  · rintro ⟨entries, i, j, hentries, ⟨names, hkeys, hnodup, rfl⟩, rfl⟩
    exact .intro hentries hkeys hnodup
  · rintro ⟨hentries, hkeys, hnodup⟩
    exact ⟨_, _, _, hentries, ⟨_, hkeys, hnodup, rfl⟩, rfl⟩

theorem spends_fieldOr {read : Node → Decoder α} {R : Node → α → Nat → Prop}
    (hread : ∀ node, Spends (read node) anchors (R node)) (fields : List (String × Node))
    (name : String) (default : α) :
    Spends (fieldOr fields name default read) anchors (HasFieldOr fields name default R) := by
  unfold fieldOr
  split
  · rename_i node hnode
    refine (hread node).congr fun a n => ⟨.there hnode, ?_⟩
    intro h
    cases h with
    | there hnode' h => rw [hnode, Option.some.injEq] at hnode'; exact hnode' ▸ h
    | missing hnone => rw [hnode] at hnone; cases hnone
  · rename_i hnone
    refine (Spends.pure default).congr fun a n => ⟨?_, ?_⟩
    · rintro ⟨rfl, rfl⟩
      exact .missing hnone
    · intro h
      cases h with
      | there hnode => rw [hnone] at hnode; cases hnode
      | missing => exact ⟨rfl, rfl⟩

theorem spends_field {read : Node → Decoder α} {R : Node → α → Nat → Prop}
    (hread : ∀ node, Spends (read node) anchors (R node)) (fields : List (String × Node))
    (name : String) :
    Spends (field fields name read) anchors (HasField fields name R) := by
  unfold field
  split
  · rename_i node hnode
    refine (hread node).congr fun a n => ⟨.intro hnode, ?_⟩
    rintro ⟨hnode', h⟩
    rw [hnode, Option.some.injEq] at hnode'
    exact hnode' ▸ h
  · rename_i hnone
    refine Spends.fail.congr fun a n => ⟨nofun, ?_⟩
    rintro ⟨hnode, -⟩
    rw [hnone] at hnode
    cases hnode

/-- A decoder of structures with one field that may be missing. -/
theorem spends_atPath {read : Node → Decoder α} {R : Node → α → Nat → Prop} {default : α}
    {path : List String}
    (hread : ∀ node, Spends (read node) anchors (AtPath anchors default R path node))
    (name : String) (node : Node) :
    Spends (do fieldOr (← fields [name] node) name default read) anchors
      (AtPath anchors default R (name :: path) node) :=
  (spends_fields [name] node).bind fun fields => spends_fieldOr hread fields name default

end Decoder

end ConfigBinding.Yaml
