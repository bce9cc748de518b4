import ConfigBinding.Proofs.Yaml.Shapes

/-!
# Nodes and their values

The shape that a node has if it stands for a value (`IsValue`): a scalar that can be read, or a
collection of values with a depth of one less, under the name of its local tag if it has one. The
decoder of values decides all of this on the way through a node, so it is first taken apart into the
name and the content (`Decoder.value_zero`, `Decoder.value_succ`); each of these comes to one of the
relations.
-/

set_option autoImplicit false

namespace ConfigBinding.Yaml

/-- A scalar stands for a value. A local tag does not count here. -/
inductive HasScalar : Node → Value → Nat → Prop
  | intro {isPlain : Bool} {tag : Option Tag} {cs : List Char} {v : Value} :
      scalarValue? isPlain (tag.filter (!·.isLocal)) cs = some v →
      HasScalar (.scalar isPlain tag cs) v 0

/-- Key and value of an entry have a shape. -/
inductive HasEntry (R : Node → Value → Nat → Prop) : Node × Node → Value × Value → Nat → Prop
  | intro {key node : Node} {k v : Value} {i j : Nat} : R key k i → R node v j →
      HasEntry R (key, node) (k, v) (i + j)

/-- A collection stands for a value, if its members have a shape and no key occurs twice. -/
inductive HasCollection (R : Node → Value → Nat → Prop) (depth : Nat) : Node → Value → Nat → Prop
  | sequence {tag : Option Tag} {items : List Node} {vs : List Value} {n : Nat} :
      Each R items vs n → HasCollection R depth (.sequence tag items) (.sequence vs) n
  | mapping {tag : Option Tag} {entries : List (Node × Node)} {pairs : List (Value × Value)}
      {n : Nat} : Each (HasEntry R) entries pairs n → Decoder.distinct depth pairs = true →
      HasCollection R depth (.mapping tag entries) (.mapping pairs) n

section
variable (anchors : List (Nat × Node))

/-- What a node stands for has a content, and a local tag gives its name to that. -/
inductive IsNamed (C : Node → Value → Nat → Prop) : Node → Value → Nat → Prop
  | plain {node body : Node} {v : Value} {i j : Nat} : Stands anchors node body i →
      Decoder.localName? body = none → C body v j → IsNamed C node v (i + j)
  | tagged {node body : Node} {name : String} {v : Value} {i j : Nat} :
      Stands anchors node body i → Decoder.localName? body = some name → C body v j →
      IsNamed C node (.tagged name v) (i + j)

/-- A node stands for a value with collections at most `depth` deep. -/
def IsValue : (depth : Nat) → Node → Value → Nat → Prop
  | 0 => IsNamed anchors HasScalar
  | depth + 1 => IsNamed anchors fun body v n =>
      HasScalar body v n ∨ HasCollection (IsValue depth) depth body v n

end

namespace Decoder

variable {anchors : List (Nat × Node)}

/-! ## The decoder in parts -/

/-- Reads the content of a node that may be no collection. -/
def scalarContent (body : Node) : Decoder Value :=
  match withoutLocalTag body with
  | .scalar isPlain tag cs => ofOption (scalarValue? isPlain tag cs)
  | _ => fail

/-- Reads the content of a node, whose members are read as `read` says. -/
def content (read : Node → Decoder Value) (depth : Nat) (body : Node) : Decoder Value :=
  match withoutLocalTag body with
  | .scalar isPlain tag cs => ofOption (scalarValue? isPlain tag cs)
  | .sequence _ items => .sequence <$> each read items
  | .mapping _ entries => do
    let entries ← each (fun e => do return (← read e.1, ← read e.2)) entries
    if distinct depth entries then pure (.mapping entries) else fail
  | _ => fail

/-- Reads a content under the name of the local tag. -/
def named (read : Node → Decoder Value) (node : Node) : Decoder Value := do
  let body ← resolve node
  match localName? body with
  | some name => .tagged name <$> read body
  | none => read body

theorem value_zero (node : Node) : value 0 node = named scalarContent node := by
  delta value named
  refine congrArg (resolve node >>= ·) (funext fun body => ?_)
  unfold scalarContent
  cases withoutLocalTag body <;> rfl

theorem value_succ (depth : Nat) (node : Node) :
    value (depth + 1) node = named (content (value depth) depth) node := by
  delta named value
  refine congrArg (resolve node >>= ·) (funext fun body => ?_)
  unfold content
  cases withoutLocalTag body <;> rfl

theorem withoutLocalTag_scalar (isPlain : Bool) (tag : Option Tag) (cs : List Char) :
    withoutLocalTag (.scalar isPlain tag cs) = .scalar isPlain (tag.filter (!·.isLocal)) cs := by
  cases tag with
  | none => rfl
  | some tag => cases h : tag.isLocal <;> simp [withoutLocalTag, Option.filter, h]

/-! ## The parts and their shapes -/

theorem spends_scalar (isPlain : Bool) (tag : Option Tag) (cs : List Char) :
    Spends (ofOption (scalarValue? isPlain (tag.filter (!·.isLocal)) cs)) anchors
      (HasScalar (.scalar isPlain tag cs)) := by
  refine (Spends.ofOption _).congr fun v n => ⟨?_, ?_⟩
  · rintro ⟨hv, rfl⟩
    exact .intro hv
  · rintro ⟨hv⟩
    exact ⟨hv, rfl⟩

theorem spends_scalarContent (body : Node) :
    Spends (scalarContent body) anchors (HasScalar body) := by
  cases body with
  | scalar isPlain tag cs =>
    unfold scalarContent
    rw [withoutLocalTag_scalar]
    exact spends_scalar isPlain tag cs
  | _ => exact Spends.fail.congr fun v n => ⟨nofun, nofun⟩

theorem spends_named {read : Node → Decoder Value} {C : Node → Value → Nat → Prop}
    (hread : ∀ body, Spends (read body) anchors (C body)) (node : Node) :
    Spends (named read node) anchors (IsNamed anchors C node) := by
  have hnamed : Spends (named read node) anchors _ := Spends.bind (S := fun body v n =>
    (∃ name w, localName? body = some name ∧ C body w n ∧ v = .tagged name w) ∨
      localName? body = none ∧ C body v n) (spends_resolve node)
    (by
      intro body
      cases localName? body with
      | none => exact (hread body).congr (by simp)
      | some name => exact ((hread body).map _).congr (by simp))
  refine hnamed.congr fun v n => ⟨?_, ?_⟩
  · rintro ⟨body, i, j, hstands, ⟨name, w, hname, hbody, rfl⟩ | ⟨hnone, hbody⟩, rfl⟩
    · exact .tagged hstands hname hbody
    · exact .plain hstands hnone hbody
  · intro h
    cases h with
    | plain hstands hnone hbody => exact ⟨_, _, _, hstands, .inr ⟨hnone, hbody⟩, rfl⟩
    | tagged hstands hname hbody =>
      exact ⟨_, _, _, hstands, .inl ⟨_, _, hname, hbody, rfl⟩, rfl⟩

section
variable {read : Node → Decoder Value} {R : Node → Value → Nat → Prop}
  (hread : ∀ node, Spends (read node) anchors (R node))
include hread

theorem spends_entry (entry : Node × Node) :
    Spends (do return (← read entry.1, ← read entry.2)) anchors (HasEntry R entry) := by
  refine ((hread entry.1).bind fun k => (hread entry.2).bind fun v => .pure (k, v)).congr
    fun pair n => ⟨?_, ?_⟩
  · rintro ⟨k, i, _, hk, ⟨v, j, _, hv, ⟨rfl, rfl⟩, rfl⟩, rfl⟩
    exact .intro hk hv
  · rintro ⟨hk, hv⟩
    exact ⟨_, _, _, hk, ⟨_, _, 0, hv, ⟨rfl, rfl⟩, rfl⟩, rfl⟩

theorem spends_mapping (depth : Nat) (tag : Option Tag) (entries : List (Node × Node)) :
    Spends (content read depth (.mapping tag entries)) anchors
      (HasCollection R depth (.mapping tag entries)) := by
  have hdistinct : ∀ pairs : List (Value × Value), Spends
      (if distinct depth pairs then pure (Value.mapping pairs) else fail) anchors fun v n =>
        distinct depth pairs = true ∧ v = .mapping pairs ∧ n = 0 := by
    intro pairs
    cases distinct depth pairs with
    | true => exact (Spends.pure _).congr (by simp)
    | false => exact Spends.fail.congr (by simp)
  refine ((spends_each (spends_entry hread) entries).bind hdistinct).congr fun v n => ⟨?_, ?_⟩
  · rintro ⟨pairs, i, _, hentries, ⟨hpairs, rfl, rfl⟩, rfl⟩
    exact .mapping hentries hpairs
  · intro h
    cases h with
    | mapping hentries hpairs => exact ⟨_, _, 0, hentries, ⟨hpairs, rfl, rfl⟩, rfl⟩

theorem spends_content (depth : Nat) (body : Node) :
    Spends (content read depth body) anchors fun v n =>
      HasScalar body v n ∨ HasCollection R depth body v n := by
  cases body with
  | scalar isPlain tag cs =>
    unfold content
    rw [withoutLocalTag_scalar]
    exact (spends_scalar isPlain tag cs).congr fun v n => (or_iff_left nofun).symm
  | sequence tag items =>
    refine ((spends_each hread items).map Value.sequence).congr fun v n => ⟨?_, ?_⟩
    · rintro ⟨vs, hitems, rfl⟩
      exact .inr (.sequence hitems)
    · intro h
      cases h.resolve_left nofun with
      | sequence hitems => exact ⟨_, hitems, rfl⟩
  | mapping tag entries =>
    exact (spends_mapping hread depth tag entries).congr fun v n => (or_iff_right nofun).symm
  | _ => exact Spends.fail.congr fun v n => ⟨nofun, (Or.elim · nofun nofun)⟩

end

theorem spends_value (depth : Nat) (node : Node) :
    Spends (value depth node) anchors (IsValue anchors depth node) := by
  induction depth generalizing node with
  | zero =>
    rw [value_zero]
    exact spends_named spends_scalarContent node
  | succ depth ih =>
    rw [value_succ]
    exact spends_named (spends_content ih depth) node

end Decoder

end ConfigBinding.Yaml
