import ConfigBinding.Proofs.Decimal.Notation
import ConfigBinding.Proofs.Descriptor.Secrets
import ConfigBinding.Proofs.Leaf.Rendering
import ConfigBinding.Resolution

/-!
# Numbers in descriptors

A number in a descriptor is handed to the environment as a text and read from there again, by rules
that are not those of YAML. Integers keep their value on this way, and finite floating-point numbers
are at least readable. The words that YAML has for infinities and for what is no number are none of
the words that the reader of floating-point numbers knows, so a field of such a type refuses them as
malformed (`numbers_reach_fields`).
-/

set_option autoImplicit false

namespace ConfigBinding

/-! ## Texts of numbers -/

namespace Yaml

/-- A number, and not a text that looks like one. -/
inductive Value.IsNumber : Value → Prop
  | integer (n : Int) : IsNumber (.integer n)
  | float (v : Decimal.BinaryFloat) : IsNumber (.float v)

/-- Whether a value is an infinity, or is none of the numbers. -/
def Value.isSpecial : Value → Bool
  | .float .nan | .float (.infinite _) => true
  | _ => false

/-- The number's text can be taken apart as a floating-point number, unless it is one of the
words. -/
theorem Value.IsNumber.text {v : Value} (h : v.IsNumber) :
    ∃ s, v.scalarText? = some s ∧
      (Decimal.FloatText.read? s.toList = none ↔ v.isSpecial = true) := by
  cases h with
  | integer n =>
    have hread := Decimal.isSome_read?_intText n
    exact ⟨_, rfl, fun hnone => by simp [hnone] at hread, nofun⟩
  | float v =>
    refine ⟨_, rfl, ?_⟩
    cases v with
    | finite negative mantissa exponent =>
      have hread := Decimal.isSome_read?_render floatStyle .double negative mantissa exponent
      exact ⟨fun hnone => by simp [hnone] at hread, nofun⟩
    | infinite negative => cases negative <;> exact ⟨fun _ => rfl, fun _ => by decide⟩
    | nan => exact ⟨fun _ => rfl, fun _ => by decide⟩

end Yaml

/-- A text is malformed as a floating-point number if it cannot be taken apart as one. -/
theorem Kind.readFloat_malformed_iff {t : FloatType} {s : String} :
    readFloat t s = .error (.malformed t.name s) ↔ Decimal.FloatText.read? s.toList = none := by
  unfold readFloat Decimal.BinaryFormat.read?
  cases hread : Decimal.FloatText.read? s.toList with
  | none => simp
  | some text =>
    simp only [Option.map_some]
    split
    · rename_i h
      cases h
    · split <;> simp
    · simp

/-! ## The way of a value -/

namespace Descriptor

/-- The first entry of a name that has a value is an item with the value, and no secret. -/
inductive SetsFirst (d : Descriptor) : String → Yaml.Value → Prop
  | intro (item : ManifestEntry) {v : Yaml.Value} (earlier later : List Entry) :
      item.secret = none → item.value = some v →
      d.entries = earlier ++ item.toEntry :: later →
      (∀ entry ∈ earlier, entry.name = item.name → entry.value = none) → SetsFirst d item.name v

/-- The text of such a value is the descriptor's literal for the name. -/
theorem SetsFirst.literal? {d : Descriptor} {name : String} {v : Yaml.Value}
    (h : d.SetsFirst name v)
    {s : String} (hs : v.scalarText? = some s) : d.literal? name = some s := by
  obtain ⟨item, earlier, later, hsecret, hvalue, hentries, hearlier⟩ := h
  have hitem : item.toEntry = ⟨item.name, some s, none⟩ := by
    rw [ManifestEntry.toEntry, hsecret, hvalue, ← hs]
  have hnone : (earlier.filter fun entry => !entry.isSecret).findSome?
      (fun entry => if entry.name = item.name then entry.value else none) = none := by
    rw [List.findSome?_eq_none_iff]
    intro entry hentry
    split
    · exact hearlier entry (List.mem_of_mem_filter hentry) ‹_›
    · rfl
  rw [Descriptor.literal?, literals, hentries, hitem, List.filter_append,
    List.filter_cons_of_pos rfl, Entry.supplied?, List.findSome?_append, hnone, Option.none_or]
  simp

/-- Where the environment lacks the name, it has the text after layering. -/
theorem SetsFirst.get?_layer {d : Descriptor} {name : String} {v : Yaml.Value}
    (h : d.SetsFirst name v) {e : Environment} (hlacks : e.contains name = false) {s : String}
    (hs : v.scalarText? = some s) :
    (e.layer (d.candidates e)).1.get? name = some ⟨name, s, .descriptor⟩ := by
  rw [get?_layer_candidates, Environment.get?_eq_none_iff.mpr hlacks, h.literal? hs]
  rfl

end Descriptor

/-- A leaf whose field has a variable takes its value, whatever is known of the platform. -/
theorem Resolver.visit_of_get? {r : Resolver} {f : Field} {v : Variable}
    (hv : r.environment.get? f.key = some v) {l m : Leaf} (hm : l.assign v.value = .ok m)
    (s : Resolving) :
    r.visit f l s =
      ⟨m, ⟨s.probe, s.events ++ [.valueResolved f.key (.environment v.origin)]⟩, none⟩ := by
  have hcandidate : f.candidate r.environment = .settled ⟨v.value, .environment v.origin⟩ := by
    rw [Field.candidate, hv]
  have hresolve : s.probe.resolve r.platform f r.environment =
      (some ⟨v.value, .environment v.origin⟩, s.probe) := by
    simp [Probe.resolve, Field.asksPlatform, Field.resolve, hcandidate]
  rw [Resolver.visit, hresolve]
  simp only [hm]

/-- **Numbers in descriptors.** Let the first entry with a value for the name of a field be a
number, and the environment lack the name. Then layering sets the name to the text of the number. If
it is an integer of the type of the field, resolving the field puts this very integer into its leaf,
whatever the leaf held and whether or not the platform was asked. Read as a floating-point number,
the text is malformed exactly if the number is an infinity or none. -/
theorem Descriptor.numbers_reach_fields {d : Descriptor} {e : Environment} {f : Field}
    {v : Yaml.Value} (hset : d.SetsFirst f.key v) (hnumber : v.IsNumber)
    (hlacks : e.contains f.key = false) :
    let out := (e.layer (d.candidates e)).1
    (∀ (t : IntType) (x w : t.Value), v = .integer x.val →
      ∀ (r : Resolver) (s : Resolving), r.environment = out →
        r.visit f ⟨.kind (.int t), w⟩ s = ⟨⟨.kind (.int t), x⟩,
          ⟨s.probe, s.events ++ [.valueResolved f.key (.environment .descriptor)]⟩, none⟩) ∧
    ∃ text, out.get? f.key = some ⟨f.key, text, .descriptor⟩ ∧
      ∀ t : FloatType, (Kind.float t).read text = .error (.malformed t.name text) ↔
        v.isSpecial = true := by
  refine ⟨fun t x w hv r s hr => ?_, ?_⟩
  · have hvariable : r.environment.get? f.key =
        some ⟨f.key, Decimal.intText x.val, .descriptor⟩ := by
      rw [hr]
      exact hset.get?_layer hlacks (by rw [hv]; rfl)
    refine Resolver.visit_of_get? hvariable ?_ s
    have hread : (Kind.int t).read (Decimal.intText x.val) = .ok x := Kind.readInt_intText x
    simp only [Leaf.assign, LeafType.assign, hread]
  · obtain ⟨text, htext, hspecial⟩ := hnumber.text
    exact ⟨text, hset.get?_layer hlacks htext, fun t =>
      Kind.readFloat_malformed_iff.trans hspecial⟩

/-- A port and a ratio. -/
theorem Descriptor.numbers_reach_fields_port :
    let port : ManifestEntry := ⟨"PORT", some (.integer 8080), none⟩
    let ratio : ManifestEntry := ⟨"RATIO", some (.float (.finite true 1 (-1))), none⟩
    let d : Descriptor := ⟨⟨"service.yaml"⟩, .service, [port.toEntry, ratio.toEntry]⟩
    let e := Environment.ofPairs [("HOST", "localhost")]
    let out := (e.layer (d.candidates e)).1
    let f : Field := ⟨"port", "PORT", "u16", Tags.empty⟩
    let r : Resolver := ⟨out, fun _ => false, false⟩
    let x : IntType.u16.Value := ⟨8080, by decide, by decide⟩
    d.SetsFirst "PORT" (.integer 8080) ∧ e.contains "PORT" = false ∧
      (r.visit f (.new (.kind (.int .u16))) ⟨⟨0, none⟩, []⟩).leaf = ⟨.kind (.int .u16), x⟩ ∧
    d.SetsFirst "RATIO" (.float (.finite true 1 (-1))) ∧ e.contains "RATIO" = false ∧
      ∃ text, out.get? "RATIO" = some ⟨"RATIO", text, .descriptor⟩ ∧
        (Kind.float .double).read text ≠ .error (.malformed "f64" text) := by
  intro port ratio d e out f r x
  have hport : d.SetsFirst "PORT" (.integer 8080) :=
    .intro port [] [ratio.toEntry] rfl rfl rfl nofun
  have hratio : d.SetsFirst "RATIO" (.float (.finite true 1 (-1))) :=
    .intro ratio [port.toEntry] [] rfl rfl rfl (by decide)
  have hlacks : e.contains "PORT" = false ∧ e.contains "RATIO" = false := by decide
  have hinteger := (Descriptor.numbers_reach_fields (f := f) hport (.integer _) hlacks.1).1
  obtain ⟨text, htext, hmalformed⟩ := (Descriptor.numbers_reach_fields
    (f := ⟨"ratio", "RATIO", "f64", Tags.empty⟩) hratio (.float _) hlacks.2).2
  refine ⟨hport, hlacks.1, ?_, hratio, hlacks.2, text, htext, fun h => ?_⟩
  · have hvisit := hinteger .u16 x default rfl r ⟨⟨0, none⟩, []⟩ rfl
    exact congrArg Schema.Visit.leaf hvisit
  · cases (hmalformed .double).mp h

/-- Infinity, which is a number in YAML and of the 64-bit type, but is written differently for the
two. -/
theorem Descriptor.infinity_malformed :
    let contents := "\x7bkind: Service, spec: \x7btemplate: \x7bspec: \x7bcontainers: " ++
      "[\x7benv: [\x7bname: RATIO, value: .inf\x7d]\x7d]\x7d\x7d\x7d\x7d"
    let d : Descriptor := ⟨⟨"service.yaml"⟩, .service, [Entry.literal "RATIO" ".inf"]⟩
    let e := Environment.empty
    let out := (e.layer (d.candidates e)).1
    (Descriptor.parse ⟨"service.yaml"⟩ contents).result = .ok d ∧
      d.SetsFirst "RATIO" (.float (.infinite false)) ∧
      (Yaml.Value.float (.infinite false)).IsNumber ∧ e.contains "RATIO" = false ∧
      out.get? "RATIO" = some ⟨"RATIO", ".inf", .descriptor⟩ ∧
      (Kind.float .double).read ".inf" = .error (.malformed "f64" ".inf") ∧
      (Kind.float .double).read "inf" = .ok (Decimal.BinaryFloat.infinite false) := by
  intro contents d e out
  have hset : d.SetsFirst "RATIO" (.float (.infinite false)) :=
    .intro ⟨"RATIO", some (.float (.infinite false)), none⟩ [] [] rfl rfl rfl nofun
  exact ⟨by decide +kernel, hset, .float _, rfl, hset.get?_layer rfl rfl,
    Kind.readFloat_malformed_iff.mpr (by decide), rfl⟩

end ConfigBinding
