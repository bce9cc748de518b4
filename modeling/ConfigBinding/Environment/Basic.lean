import ConfigBinding.Entry
import ConfigBinding.Text.Utf8

/-!
# Environments

An environment is a list of variables in the order in which they were first given a value, and an
index by which a variable is found from its key. No two variables have the same key: what is set
first stays, and a later value for its key is turned away. Every variable remembers where its value
came from.
-/

set_option autoImplicit false

namespace ConfigBinding

/-- Where the value of a variable came from. -/
inductive Origin where
  | process
  | descriptor
  | explicit
  deriving DecidableEq, Repr

/-- The name of an origin. -/
def Origin.name : Origin → String
  | process => "Process"
  | descriptor => "Descriptor"
  | explicit => "Explicit"

/-- A variable with its value. -/
structure Variable where
  key : String
  value : String
  origin : Origin
  deriving DecidableEq, Repr

/-- The index has exactly the keys of the variables, and for each key its place in the list. -/
def Indexes (index : List (String × Nat)) (vs : List Variable) : Prop :=
  ∀ (key : String) (i : Nat), index.lookup key = some i ↔ (vs.map Variable.key)[i]? = some key

theorem Indexes.nil : Indexes [] [] := by
  intro key i
  simp

/-- A variable of a new key takes the place behind the others. -/
theorem Indexes.append {index : List (String × Nat)} {vs : List Variable} {v : Variable}
    (h : Indexes index vs) (hv : index.lookup v.key = none) :
    Indexes ((v.key, vs.length) :: index) (vs ++ [v]) := by
  intro key i
  rw [List.map_append, List.map_singleton, List.getElem?_append, List.length_map,
    List.getElem?_singleton, List.lookup_cons]
  by_cases hk : key = v.key
  · -- The key stands at no place before the new one.
    have hnew : (vs.map Variable.key)[i]? ≠ some v.key := by
      intro hi
      rw [(h v.key i).mpr hi] at hv
      cases hv
    subst hk
    simp only [beq_self_eq_true, Option.some.injEq]
    split
    · rename_i hi
      exact ⟨fun heq => by omega, fun hi' => absurd hi' hnew⟩
    · split
      · exact ⟨fun _ => rfl, fun _ => by omega⟩
      · exact ⟨fun heq => by omega, by rintro ⟨⟩⟩
  · have hne : (key == v.key) = false := by simpa using hk
    simp only [hne]
    rw [h key i]
    split
    · exact Iff.rfl
    · rename_i hi
      have hnone : (vs.map Variable.key)[i]? = none := by
        rw [List.getElem?_eq_none_iff, List.length_map]
        omega
      rw [hnone]
      split
      · exact ⟨by rintro ⟨⟩, fun heq => absurd (Option.some.inj heq).symm hk⟩
      · exact Iff.rfl

/-- Variables in the order of their first setting, with an index of their places. -/
structure Environment where
  toList : List Variable
  index : List (String × Nat)
  indexed : Indexes index toList

namespace Environment

/-- The environment without variables. -/
def empty : Environment :=
  ⟨[], [], .nil⟩

instance : Inhabited Environment := ⟨empty⟩

/-- The keys, in the order of their first setting. -/
def keys (e : Environment) : List String :=
  e.toList.map Variable.key

/-- The place of a key. -/
def index? (e : Environment) (key : String) : Option Nat :=
  e.index.lookup key

/-- The variable of a key. -/
def get? (e : Environment) (key : String) : Option Variable :=
  (e.index? key).bind fun i => e.toList[i]?

/-- Whether there is a variable of the key. -/
def contains (e : Environment) (key : String) : Bool :=
  (e.index? key).isSome

/-- The number of variables. -/
def size (e : Environment) : Nat :=
  e.toList.length

/-- Whether there are no variables. -/
def isEmpty (e : Environment) : Bool :=
  e.toList.isEmpty

/-- Sets a variable, unless its key has a value. Says whether it was set. -/
def insert (e : Environment) (v : Variable) : Environment × Bool :=
  if h : e.contains v.key = true then (e, false)
  else
    ({ toList := e.toList ++ [v]
       index := (v.key, e.toList.length) :: e.index
       indexed := e.indexed.append (Option.not_isSome_iff_eq_none.mp h) }, true)

/-- Sets a key to a value by hand, unless it has one. -/
def setExplicit (e : Environment) (key value : String) : Environment :=
  (e.insert ⟨key, value, .explicit⟩).1

/-- Sets several variables in turn. -/
def insertAll (e : Environment) (vs : List Variable) : Environment :=
  vs.foldl (fun e v => (e.insert v).1) e

/-- The environment of the given keys and values. -/
def ofPairs (pairs : List (String × String)) : Environment :=
  empty.insertAll (pairs.map fun p => ⟨p.1, p.2, .explicit⟩)

/-- The variable that a key and a value of the process make: none unless both are UTF-8. -/
def processVariable? (p : List UInt8 × List UInt8) : Option Variable :=
  match Text.ofBytes? p.1, Text.ofBytes? p.2 with
  | some key, some value => some ⟨key, value, .process⟩
  | _, _ => none

/-- The environment of a process. -/
def ofProcess (pairs : List (List UInt8 × List UInt8)) : Environment :=
  empty.insertAll (pairs.filterMap processVariable?)

/-- Sets the literal value of an entry. Says whether it was set. -/
def layerEntry (e : Environment) (entry : Entry) : Environment × Bool :=
  match entry.value with
  | some value => e.insert ⟨entry.name, value, .descriptor⟩
  | none => (e, false)

/-- Sets the literal values of entries in turn. Says how many were set. -/
def layer (e : Environment) : List Entry → Environment × Nat
  | [] => (e, 0)
  | entry :: rest =>
    let (e, added) := e.layerEntry entry
    let (e, count) := e.layer rest
    (e, (if added then 1 else 0) + count)

/-! ## Laws -/

theorem index?_eq_some_iff {e : Environment} {key : String} {i : Nat} :
    e.index? key = some i ↔ e.keys[i]? = some key :=
  e.indexed key i

theorem contains_iff {e : Environment} {key : String} : e.contains key = true ↔ key ∈ e.keys := by
  simp only [contains, Option.isSome_iff_exists, index?_eq_some_iff, List.mem_iff_getElem?]

/-- No two variables have the same key: the index has one place for each. -/
theorem keys_nodup (e : Environment) : e.keys.Nodup := by
  rw [List.Nodup, List.pairwise_iff_getElem]
  intro i j hi hj hij heq
  have hi' := index?_eq_some_iff.mpr (List.getElem?_eq_getElem hi)
  have hj' := index?_eq_some_iff.mpr (List.getElem?_eq_getElem hj)
  rw [heq, hj', Option.some.injEq] at hi'
  omega

/-- The variable at the place of a key is the one in the list that has the key. -/
theorem get?_eq_find? (e : Environment) (key : String) :
    e.get? key = e.toList.find? (·.key == key) := by
  unfold get?
  cases hi : e.index? key with
  | none =>
    symm
    rw [Option.bind_none, List.find?_eq_none]
    intro v hv hkey
    have hcontains : e.contains key = true :=
      contains_iff.mpr (List.mem_map.mpr ⟨v, hv, eq_of_beq hkey⟩)
    rw [contains, hi] at hcontains
    cases hcontains
  | some i =>
    obtain ⟨v, hv, hkey⟩ := Option.map_eq_some_iff.mp
      (List.getElem?_map ▸ index?_eq_some_iff.mp hi : (e.toList[i]?).map Variable.key = some key)
    obtain ⟨hlt, hget⟩ := List.getElem?_eq_some_iff.mp hv
    symm
    rw [Option.bind_some, hv, List.find?_eq_some_iff_getElem]
    refine ⟨beq_iff_eq.mpr hkey, i, hlt, hget, fun j hj => ?_⟩
    -- A variable of the key at an earlier place would be at two places of the index.
    rw [Bool.not_eq_true', beq_eq_false_iff_ne]
    intro hkeyj
    have hjget : e.keys[j]? = some key := by
      rw [keys, List.getElem?_map, List.getElem?_eq_getElem (by omega), Option.map_some, hkeyj]
    have hjplace := index?_eq_some_iff.mpr hjget
    rw [hi, Option.some.injEq] at hjplace
    omega

theorem insert_of_contains {e : Environment} {v : Variable} (h : e.contains v.key = true) :
    e.insert v = (e, false) := by
  simp [insert, h]

theorem toList_insert {e : Environment} {v : Variable} (h : e.contains v.key = false) :
    (e.insert v).1.toList = e.toList ++ [v] := by
  simp [insert, h]

theorem insert_added {e : Environment} {v : Variable} :
    (e.insert v).2 = !e.contains v.key := by
  by_cases h : e.contains v.key = true <;> simp [insert, h]

end Environment

end ConfigBinding
