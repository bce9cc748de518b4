import ConfigBinding.Descriptor.Basic
import ConfigBinding.Proofs.Environment.Layering

/-!
# What a descriptor supplies and what it checks

Two sides of a descriptor's entries. Those that are no secrets supply values: layering the
candidates for an environment gives a key that the environment lacks the first literal value there
is for it (`get?_layer_candidates`). Those that are secrets supply nothing and are checked: each
needs a field of its name that is tagged as a secret (`validateSecrets_eq_ok_iff`). The check does
not look at literals.
-/

set_option autoImplicit false

namespace ConfigBinding.Descriptor

/-! ## Supplying -/

/-- The literal value that a descriptor has for a key: that of its first entry of that name that is
no secret and has a value. -/
def literal? (d : Descriptor) (key : String) : Option String :=
  Entry.supplied? key d.literals

theorem supplied?_filter {p : Entry → Bool} {key : String} {entries : List Entry}
    (hp : ∀ entry ∈ entries, entry.name = key → p entry = true) :
    Entry.supplied? key (entries.filter p) = Entry.supplied? key entries := by
  induction entries with
  | nil => rfl
  | cons entry rest ih =>
    obtain ⟨hentry, hrest⟩ := List.forall_mem_cons.mp hp
    have ih := ih hrest
    unfold Entry.supplied? at ih ⊢
    by_cases hname : entry.name = key
    · rw [List.filter_cons_of_pos (hentry hname), List.findSome?_cons, List.findSome?_cons, ih]
    · cases hpe : p entry with
      | true => rw [List.filter_cons_of_pos hpe, List.findSome?_cons, List.findSome?_cons, ih]
      | false =>
        rw [List.filter_cons_of_neg (by rw [hpe]; decide), List.findSome?_cons, if_neg hname, ih]

/-- A key that the environment lacks is supplied by the candidates as by all literals. -/
theorem supplied?_candidates {d : Descriptor} {e : Environment} {key : String}
    (h : e.contains key = false) : Entry.supplied? key (d.candidates e) = d.literal? key := by
  refine supplied?_filter fun entry _ hname => ?_
  rw [hname, h]; rfl

/-- Layering the candidates gives a key that the environment lacks the descriptor's literal for
it. -/
theorem get?_layer_candidates (d : Descriptor) (e : Environment) (key : String) :
    (e.layer (d.candidates e)).1.get? key =
      (e.get? key).or ((d.literal? key).map fun text => ⟨key, text, .descriptor⟩) := by
  rw [Environment.get?_layer]
  cases hc : e.contains key with
  | false => rw [supplied?_candidates hc]
  | true =>
    obtain ⟨v, hv⟩ := Option.isSome_iff_exists.mp ((Environment.isSome_get? e key).trans hc)
    rw [hv, Option.some_or, Option.some_or]

/-! ## Checking -/

/-- A secret entry passes exactly if some field of its name is tagged as a secret. -/
theorem checkSecret_eq_ok_iff {fields : List Field} {entry : Entry} :
    checkSecret fields entry = .ok () ↔
      ∃ f ∈ fields, f.key = entry.name ∧ f.isSecret = true := by
  have hany : (fields.filter (·.key == entry.name)).any (·.isSecret) = true ↔
      ∃ f ∈ fields, f.key = entry.name ∧ f.isSecret = true := by
    simp only [List.any_eq_true, List.mem_filter, beq_iff_eq, and_assoc]
  rw [← hany]
  unfold checkSecret
  cases fields.filter (·.key == entry.name) with
  | nil => simp
  | cons first rest => cases h : (first :: rest).any (·.isSecret) <;> simp [h]

theorem checkSecrets_eq_ok_iff {fields : List Field} {entries : List Entry} :
    checkSecrets fields entries = .ok () ↔
      ∀ entry ∈ entries, entry.isSecret = true →
        ∃ f ∈ fields, f.key = entry.name ∧ f.isSecret = true := by
  induction entries with
  | nil => simp [checkSecrets]
  | cons entry rest ih =>
    rw [List.forall_mem_cons, ← ih, ← checkSecret_eq_ok_iff, checkSecrets]
    cases entry.isSecret with
    | false => simp
    | true => cases checkSecret fields entry <;> simp

/-- The check passes exactly if every secret entry has a field of its name that is tagged as a
secret. -/
theorem validateSecrets_eq_ok_iff {d : Descriptor} {fields : List Field} :
    d.validateSecrets fields = .ok () ↔
      ∀ entry ∈ d.entries, entry.isSecret = true →
        ∃ f ∈ fields, f.key = entry.name ∧ f.isSecret = true :=
  checkSecrets_eq_ok_iff

/-! ## Reading -/

/-- A file that holds a text is read as that text. -/
theorem load_of_text {files : FileReader} {path : Path} {contents : String}
    (h : files path = .ok (Text.bytes contents)) : load files path = parse path contents := by
  unfold load
  rw [h]
  dsimp only
  rw [Text.ofBytes?_bytes]

end ConfigBinding.Descriptor
