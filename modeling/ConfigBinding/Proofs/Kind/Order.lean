import ConfigBinding.Kind.Basic

/-!
# The order of values

The order of the values of every kind is transitive, and turned round when its sides are exchanged
(`transCmp_compare`), so that equality in it is an equivalence, and keys can be compared with it.
Orders of lists, options and pairs take this over from their parts; paths and floating-point values
are ordered by what they are described with.
-/

set_option autoImplicit false

namespace ConfigBinding.Kind

open Std

section
variable {α β : Type} {cmp : α → α → Ordering}

/-- An order of descriptions orders what they describe. -/
theorem transCmp_on (cmp : α → α → Ordering) [TransCmp cmp] (f : β → α) :
    TransCmp fun a b => cmp (f a) (f b) where
  eq_swap := OrientedCmp.eq_swap
  isLE_trans := TransCmp.isLE_trans

theorem compareList_eq (cmp : α → α → Ordering) : compareList cmp = List.compareLex cmp := by
  funext as bs
  induction as generalizing bs with
  | nil => cases bs <;> rfl
  | cons a as ih =>
    cases bs with
    | nil => rfl
    | cons b bs => rw [compareList, List.compareLex_cons_cons, ih]

instance [TransCmp cmp] : TransCmp (compareList cmp) := by
  rw [compareList_eq]
  infer_instance

instance [TransCmp cmp] : TransCmp (compareOption cmp) where
  eq_swap {a b} := by
    cases a with
    | none => cases b <;> rfl
    | some a =>
      cases b with
      | none => rfl
      | some b =>
        show cmp a b = (cmp b a).swap
        exact OrientedCmp.eq_swap
  isLE_trans {a b c} hab hbc := by
    cases a with
    | none => cases c <;> rfl
    | some a =>
      cases b with
      | none => cases hab
      | some b =>
        cases c with
        | none => cases hbc
        | some c =>
          show (cmp a c).isLE = true
          exact TransCmp.isLE_trans (hab : (cmp a b).isLE = true) hbc

instance {cmp' : β → β → Ordering} [TransCmp cmp] [TransCmp cmp'] :
    TransCmp (comparePair cmp cmp') :=
  have := transCmp_on cmp (Prod.fst : α × β → α)
  have := transCmp_on cmp' (Prod.snd : α × β → β)
  inferInstanceAs (TransCmp (compareLex (fun a b : α × β => cmp a.1 b.1) fun a b => cmp' a.2 b.2))

end

/-! ## Paths -/

/-- The name of a component that has one. -/
def componentName : PathComponent → String
  | .named name => String.ofList name
  | _ => ""

theorem compareComponent_eq :
    Path.compareComponent =
      compareLex (compareOn Path.componentRank) (compareOn componentName) := by
  funext a b
  cases a <;> cases b <;> rfl

instance : TransCmp Path.compareComponent := by
  rw [compareComponent_eq]
  infer_instance

/-! ## Floating-point values -/

/-- The place of a value's sort: negative infinity, negative, positive, positive infinity, none. -/
def floatRank : Decimal.BinaryFloat → Nat
  | .infinite true => 0
  | .finite true _ _ => 1
  | .finite false _ _ => 2
  | .infinite false => 3
  | .nan => 4

/-- Exponent and mantissa, both turned round where they belong to a negative value. -/
def floatMagnitude : Decimal.BinaryFloat → Int × Int
  | .finite true m e => (-e, -m)
  | .finite false m e => (e, m)
  | _ => (0, 0)

theorem compare_neg (a b : Int) : Ord.compare (-a) (-b) = (Ord.compare a b).swap := by
  rw [Int.compare_swap]
  simp only [Int.compare_eq_ite_lt, Int.neg_lt_neg_iff]

theorem compare_natCast (m n : Nat) : Ord.compare (m : Int) n = Ord.compare m n := by
  simp only [Int.compare_eq_ite_lt, Nat.compare_eq_ite_lt, Int.ofNat_lt]

theorem compareFloat_eq :
    compareFloat = compareLex (compareOn floatRank)
      (compareLex (compareOn fun v => (floatMagnitude v).1)
        (compareOn fun v => (floatMagnitude v).2)) := by
  funext a b
  cases a with
  | nan =>
    cases b with
    | nan => rfl
    | infinite t => cases t <;> rfl
    | finite t => cases t <;> rfl
  | infinite s =>
    cases b with
    | nan => cases s <;> rfl
    | infinite t => cases s <;> cases t <;> rfl
    | finite t => cases s <;> cases t <;> rfl
  | finite s m e =>
    cases b with
    | nan => cases s <;> rfl
    | infinite t => cases s <;> cases t <;> rfl
    | finite t n f =>
      cases s <;> cases t
      · show (Ord.compare e f).then (Ord.compare m n) =
          (Ord.compare e f).then (Ord.compare (m : Int) n)
        rw [compare_natCast]
      · rfl
      · rfl
      · show ((Ord.compare e f).then (Ord.compare m n)).swap =
          (Ord.compare (-e) (-f)).then (Ord.compare (-m : Int) (-n))
        rw [compare_neg, compare_neg, compare_natCast, Ordering.swap_then]

instance : TransCmp compareFloat := by
  rw [compareFloat_eq]
  infer_instance

/-- The order of the values of a kind is one. -/
instance transCmp_compare (k : Kind) : TransCmp k.compare := by
  induction k with
  | text => exact inferInstanceAs (TransOrd String)
  | path =>
    exact transCmp_on (compareList Path.compareComponent) Path.components
  | bool => exact inferInstanceAs (TransOrd Bool)
  | int t => exact transCmp_on Ord.compare (IntType.Value.val : t.Value → Int)
  | float _ => exact inferInstanceAs (TransCmp compareFloat)
  | duration => exact transCmp_on Ord.compare Duration.nanos
  | code => exact transCmp_on Ord.compare StatusCode.number
  | level => exact transCmp_on Ord.compare LogLevel.rank
  | option k ih => exact inferInstanceAs (TransCmp (compareOption k.compare))
  | list k ih => exact inferInstanceAs (TransCmp (compareList k.compare))
  | hashMap key value ih ih' =>
    exact inferInstanceAs (TransCmp (compareList (comparePair key.compare value.compare)))
  | treeMap key value ih ih' =>
    exact inferInstanceAs (TransCmp (compareList (comparePair key.compare value.compare)))

end ConfigBinding.Kind
