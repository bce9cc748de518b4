import ConfigBinding.Leaf.Basic
import Mathlib.Data.List.Basic

/-!
# What the order of hashed maps decides

A leaf is shown by a text that can depend on the orders in which hashed maps keep their entries. It
does not where no hashed map within the value has a second entry (`Leaf.orderFree_of_isCalm`), and
so never for a kind without hashed maps.
-/

set_option autoImplicit false

namespace ConfigBinding

/-- There is one way to arrange at most one entry. -/
theorem EntryOrder.arrange_of_length_le_one (order : EntryOrder) (place : List Nat)
    {texts : List String} (h : texts.length ≤ 1) : order.arrange place texts = texts := by
  have hperm := order.arrange_perm place texts
  match texts with
  | [] => exact List.perm_nil.mp hperm
  | [text] => exact List.perm_singleton.mp hperm

namespace Kind

/-- Whether no hashed map within the value has more than one entry. -/
def isCalm : (k : Kind) → k.Carrier → Bool
  | option k => fun (v : Option k.Carrier) => v.all k.isCalm
  | list k => fun (v : List k.Carrier) => v.all k.isCalm
  | hashMap key value => fun (v : List (key.Carrier × value.Carrier)) =>
    v.length ≤ 1 && v.all fun e => key.isCalm e.1 && value.isCalm e.2
  | treeMap key value => fun (v : List (key.Carrier × value.Carrier)) =>
    v.all fun e => key.isCalm e.1 && value.isCalm e.2
  | text | path | bool | int _ | float _ | duration | code | level => fun _ => true

theorem length_renderEntries {α β : Type} (renderKey : Nat → α → String)
    (renderValue : Nat → β → String) (entries : List (α × β)) :
    (renderEntries renderKey renderValue entries).length = entries.length :=
  List.length_mapIdx

section
variable {k key value : Kind}

/-- Entries whose parts are calm have the same texts in all orders. -/
theorem renderEntries_eq_of_isCalm
    (hkey : ∀ {v : key.Carrier}, key.isCalm v = true → ∀ o o', key.render o v = key.render o' v)
    (hvalue : ∀ {v : value.Carrier}, value.isCalm v = true →
      ∀ o o', value.render o v = value.render o' v)
    {entries : List (key.Carrier × value.Carrier)}
    (h : (entries.all fun e => key.isCalm e.1 && value.isCalm e.2) = true)
    (keyOrder keyOrder' valueOrder valueOrder' : Nat → EntryOrder) :
    renderEntries (fun i => key.render (keyOrder i)) (fun i => value.render (valueOrder i))
        entries =
      renderEntries (fun i => key.render (keyOrder' i)) (fun i => value.render (valueOrder' i))
        entries := by
  refine List.mapIdx_eq_mapIdx_iff.mpr fun i hi => ?_
  have hentry := List.all_eq_true.mp h _ (List.getElem_mem hi)
  rw [Bool.and_eq_true] at hentry
  exact congrArg₂ (· ++ ": " ++ ·) (hkey hentry.1 _ _) (hvalue hentry.2 _ _)

/-- A value without hashed maps of several entries is shown the same in all orders. -/
theorem render_eq_of_isCalm {v : k.Carrier} (h : k.isCalm v = true) (order order' : EntryOrder) :
    k.render order v = k.render order' v := by
  induction k generalizing order order' with
  | text | path | bool | int | float | duration | code | level => rfl
  | option k ih =>
    cases v with
    | none => rfl
    | some x => exact congrArg ("Some(" ++ · ++ ")") (ih h order order')
  | list k ih =>
    refine congrArg (bracketed '[' ']') (List.mapIdx_eq_mapIdx_iff.mpr fun i hi => ?_)
    exact ih (List.all_eq_true.mp h _ (List.getElem_mem hi)) _ _
  | hashMap key value ihKey ihValue =>
    obtain ⟨hlength, hentries⟩ := (Bool.and_eq_true _ _).mp h
    have htexts := renderEntries_eq_of_isCalm ihKey ihValue hentries
      (fun i => order.inside (2 * i)) (fun i => order'.inside (2 * i))
      (fun i => order.inside (2 * i + 1)) (fun i => order'.inside (2 * i + 1))
    have hsingle : ∀ renderKey renderValue, (renderEntries renderKey renderValue v).length ≤ 1 :=
      fun _ _ => (length_renderEntries _ _ _).symm ▸ of_decide_eq_true hlength
    refine congrArg (bracketed '\x7b' '\x7d') ?_
    rw [order.arrange_of_length_le_one [] (hsingle _ _),
      order'.arrange_of_length_le_one [] (hsingle _ _), htexts]
  | treeMap key value ihKey ihValue =>
    exact congrArg (bracketed '\x7b' '\x7d')
      (renderEntries_eq_of_isCalm ihKey ihValue h _ _ _ _)

end

end Kind

namespace Leaf

/-- The order of hashed maps makes no difference to the text that shows the leaf. -/
def OrderFree (l : Leaf) : Prop :=
  ∀ order order' : EntryOrder, l.shown order = l.shown order'

/-- Whether the leaf is of a kind and no hashed map within its value has more than one entry. -/
def isCalm : Leaf → Bool
  | ⟨.kind k, v⟩ => k.isCalm v
  | ⟨.custom _, _⟩ => false

theorem orderFree_of_isCalm {l : Leaf} (h : l.isCalm = true) : l.OrderFree := by
  obtain ⟨type, v⟩ := l
  cases type with
  | kind k => exact fun order order' => Kind.render_eq_of_isCalm h order order'
  | custom t => cases h

end Leaf

end ConfigBinding
