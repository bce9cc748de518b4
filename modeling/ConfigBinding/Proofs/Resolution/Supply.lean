import ConfigBinding.Proofs.Schema.Bindings
import ConfigBinding.Resolution
import Mathlib.Data.List.Forall2

/-!
# What a load gives each field

A load carries a probe and events from field to field, but what it does with one field hangs on
three things alone, its `Supply`: the environment, the platform's answer, and whether secrets are
optional. `Supply.text?` is the text that wins for a field, and from it alone follow what is
accepted (`Accepts`), what a leaf then holds (`Settles`), and with what error a load ends at a field
(`Breaks`). Main statements:

* `Resolver.visit_step`: everything that the visit of one leaf can do, with the probe's state as the
  invariant (`Probe.Fits`: not asked yet, or asked once and the answer kept).
* `Resolver.pass_visit`: what a pass over any number of bindings comes to (`Supply.Outcome`).
-/

set_option autoImplicit false

namespace ConfigBinding

/-- What decides the value of every field in one load. -/
structure Supply where
  environment : Environment
  /-- Whether the program runs on the platform. -/
  onPlatform : Bool
  optionalSecrets : Bool

namespace Supply

variable (t : Supply)

/-- The text that wins for a field: the environment's value for its key, else its default, else its
value for the platform if the program runs there. -/
def text? (f : Field) : Option String :=
  match t.environment.get? f.key with
  | some v => some v.value
  | none =>
    match f.default? with
    | some text => some text
    | none => if t.onPlatform then f.onPlatform? else none

/-- Whether a load passes over a field that no text wins for. -/
def Excuses (f : Field) : Prop :=
  f.isRequired = false ∨ (f.isSecret = true ∧ t.optionalSecrets = true)

/-- Whether a leaf accepts the text that wins for it, or is excused if none does. -/
def Accepts (x : Binding) : Prop :=
  match t.text? x.field with
  | some raw => ∃ l, x.leaf.assign raw = .ok l
  | none => t.Excuses x.field

/-- `y` is what a load makes of `x`: one assignment of the winning text to the value that the leaf
had, or that value if no text wins. -/
def Settles (x y : Binding) : Prop :=
  y.field = x.field ∧
    match t.text? x.field with
    | some raw => x.leaf.assign raw = .ok y.leaf
    | none => y.leaf = x.leaf

/-- A load that comes to the binding ends there, with an error, and leaves a leaf. -/
inductive Breaks (x : Binding) : ConfigError → Leaf → Prop
  | missing : t.text? x.field = none → ¬ t.Excuses x.field →
      Breaks x (.missingRequired x.field.key) x.leaf
  | refused {raw : String} {cause : CoercionError} :
      t.text? x.field = some raw → x.leaf.assign raw = .error cause →
      Breaks x (.parse ⟨x.field.key, x.field.name, x.field.typeName, raw, x.field.isSecret, cause⟩)
        (x.leaf.afterRefusal raw)

/-- What a load over bindings comes to: every leaf is accepted and settled, or the first that breaks
ends it, with those before it settled and those behind it left alone. -/
def Outcome (before after : List Binding) : Option ConfigError → Prop
  | none => (∀ x ∈ before, t.Accepts x) ∧ List.Forall₂ t.Settles before after
  | some e => ∃ done x rest settled l,
      before = done ++ x :: rest ∧ after = settled ++ ⟨x.field, l⟩ :: rest ∧
        (∀ y ∈ done, t.Accepts y) ∧ List.Forall₂ t.Settles done settled ∧ t.Breaks x e l

variable {t}

theorem not_accepts_of_breaks {x : Binding} {e : ConfigError} {l : Leaf} (h : t.Breaks x e l) :
    ¬ t.Accepts x := by
  unfold Accepts
  cases h with
  | missing ht hx => rw [ht]; exact hx
  | refused ht ha =>
    rw [ht]
    rintro ⟨m, hm⟩
    rw [ha] at hm
    cases hm

theorem Outcome.cons {x y : Binding} {bs cs : List Binding} {failure : Option ConfigError}
    (hx : t.Accepts x) (hy : t.Settles x y) (h : t.Outcome bs cs failure) :
    t.Outcome (x :: bs) (y :: cs) failure := by
  cases failure with
  | none =>
    obtain ⟨hall, hsettled⟩ := h
    exact ⟨List.forall_mem_cons.mpr ⟨hx, hall⟩, .cons hy hsettled⟩
  | some e =>
    obtain ⟨done, z, rest, settled, l, rfl, rfl, hall, hsettled, hbreaks⟩ := h
    exact ⟨x :: done, z, rest, y :: settled, l, rfl, rfl, List.forall_mem_cons.mpr ⟨hx, hall⟩,
      .cons hy hsettled, hbreaks⟩

theorem Outcome.not_accepts {bs cs : List Binding} {e : ConfigError}
    (h : t.Outcome bs cs (some e)) : ¬ ∀ x ∈ bs, t.Accepts x := by
  obtain ⟨done, x, rest, settled, l, rfl, -, -, -, hbreaks⟩ := h
  intro hall
  exact not_accepts_of_breaks hbreaks (hall x (List.mem_append_right _ List.mem_cons_self))

end Supply

/-! ## The text that wins -/

/-- The value that a field is resolved to is the text that wins for it. -/
theorem Field.resolve_value (f : Field) (t : Supply) :
    (f.resolve t.environment t.onPlatform).map Resolved.value = t.text? f := by
  unfold Field.resolve Field.candidate Supply.text?
  cases t.environment.get? f.key with
  | some v => rfl
  | none =>
    cases f.default? with
    | some text => rfl
    | none => cases f.onPlatform? <;> cases t.onPlatform <;> rfl

/-- A field that does not hang on the platform is resolved in one way. -/
theorem Field.resolve_of_not_asks {f : Field} {e : Environment} (h : f.asksPlatform e = false)
    (b : Bool) : f.resolve e false = f.resolve e b := by
  unfold Field.asksPlatform at h
  unfold Field.resolve
  cases hc : f.candidate e with
  | settled r => rfl
  | ifOnPlatform value => rw [hc] at h; cases h
  | absent => rfl

/-! ## The probe -/

/-- The probe of a load that began when the platform had been asked `n` times: it has not been asked
since, or once, and that answer is kept. -/
inductive Probe.Fits (platform : Platform) (n : Nat) : Probe → Prop
  | fresh : Fits platform n ⟨n, none⟩
  | asked : Fits platform n ⟨n + 1, some (platform n)⟩

theorem Probe.Fits.ask {platform : Platform} {n : Nat} {p : Probe} (h : p.Fits platform n) :
    p.ask platform = (platform n, ⟨n + 1, some (platform n)⟩) := by
  cases h <;> rfl

/-- A field is resolved by the platform's first answer in the load, whenever that was given. -/
theorem Probe.Fits.resolve {platform : Platform} {n : Nat} {p : Probe} (h : p.Fits platform n)
    (f : Field) (e : Environment) :
    (p.resolve platform f e).1 = f.resolve e (platform n) ∧
      (p.resolve platform f e).2.Fits platform n := by
  unfold Probe.resolve
  cases ha : f.asksPlatform e with
  | true =>
    simp only [↓reduceIte, h.ask]
    exact ⟨trivial, .asked⟩
  | false =>
    simp only [Bool.false_eq_true, ↓reduceIte]
    exact ⟨Field.resolve_of_not_asks ha _, h⟩

/-! ## One visit -/

/-- What the visit of a leaf can do: the leaf afterwards, the events it adds, and its failure. -/
inductive Supply.Step (t : Supply) (f : Field) (l : Leaf) :
    Leaf → List Event → Option ConfigError → Prop
  | excused : f.resolve t.environment t.onPlatform = none → t.Excuses f → Step t f l l [] none
  | missing : f.resolve t.environment t.onPlatform = none → ¬ t.Excuses f →
      Step t f l l [] (some (.missingRequired f.key))
  | assigned {r : Resolved} {m : Leaf} : f.resolve t.environment t.onPlatform = some r →
      l.assign r.value = .ok m → Step t f l m [.valueResolved f.key r.source] none
  | refused {r : Resolved} {cause : CoercionError} :
      f.resolve t.environment t.onPlatform = some r → l.assign r.value = .error cause →
      Step t f l (l.afterRefusal r.value) []
        (some (.parse ⟨f.key, f.name, f.typeName, r.value, f.isSecret, cause⟩))

namespace Supply.Step

variable {t : Supply} {f : Field} {l m : Leaf} {events : List Event}

theorem breaks {e : ConfigError} (h : t.Step f l m events (some e)) : t.Breaks ⟨f, l⟩ e m := by
  have hvalue := Field.resolve_value f t
  cases h with
  | missing hr he => exact .missing (by rw [← hvalue, hr]; rfl) he
  | refused hr ha => exact .refused (by rw [← hvalue, hr]; rfl) ha

theorem settles (h : t.Step f l m events none) :
    t.Accepts ⟨f, l⟩ ∧ t.Settles ⟨f, l⟩ ⟨f, m⟩ := by
  unfold Accepts Settles
  rw [← Field.resolve_value f t]
  cases h with
  | excused hr he => rw [hr]; exact ⟨he, rfl, rfl⟩
  | assigned hr ha => rw [hr]; exact ⟨⟨_, ha⟩, rfl, ha⟩

end Supply.Step

namespace Resolver

/-- What decides the values of a load that began when the platform had been asked `n` times. -/
def supply (r : Resolver) (n : Nat) : Supply :=
  ⟨r.environment, r.platform n, r.optionalSecrets⟩

theorem demands_eq_false_iff (r : Resolver) (n : Nat) (f : Field) :
    r.demands f = false ↔ (r.supply n).Excuses f := by
  simp [demands, supply, Supply.Excuses, imp_iff_not_or, and_comm]

variable {r : Resolver} {n : Nat} {s : Resolving}

/-- Everything that the visit of a leaf can do. -/
theorem visit_step (h : s.probe.Fits r.platform n) (f : Field) (l : Leaf) :
    ∃ events, (r.visit f l s).state.events = s.events ++ events ∧
      (r.visit f l s).state.probe.Fits r.platform n ∧
      (r.supply n).Step f l (r.visit f l s).leaf events (r.visit f l s).failure := by
  obtain ⟨hresolve, hfits⟩ := h.resolve f r.environment
  unfold visit
  generalize s.probe.resolve r.platform f r.environment = probed at hresolve hfits ⊢
  obtain ⟨resolved, probe⟩ := probed
  subst hresolve
  cases hr : f.resolve r.environment (r.platform n) with
  | none =>
    refine ⟨[], (List.append_nil _).symm, hfits, ?_⟩
    cases hd : r.demands f with
    | false => exact .excused hr ((demands_eq_false_iff r n f).mp hd)
    | true =>
      refine .missing hr fun he => ?_
      rw [(demands_eq_false_iff r n f).mpr he] at hd
      cases hd
  | some resolved =>
    obtain ⟨value, source⟩ := resolved
    dsimp only
    cases ha : l.assign value with
    | ok m => exact ⟨_, rfl, hfits, .assigned (r := ⟨value, source⟩) hr ha⟩
    | error cause =>
      exact ⟨[], (List.append_nil _).symm, hfits, .refused (r := ⟨value, source⟩) hr ha⟩

/-- A visit keeps the type of the leaf. -/
theorem type_visit (r : Resolver) (f : Field) (l : Leaf) (s : Resolving) :
    (r.visit f l s).leaf.type = l.type := by
  unfold visit
  split
  · rfl
  · split
    · rename_i ha
      exact Leaf.type_eq_of_assign ha
    · rfl

/-! ## A whole pass -/

/-- A pass over bindings comes to what its supply says of them. -/
theorem pass_visit (h : s.probe.Fits r.platform n) (bs : List Binding) :
    (Schema.pass r.visit bs s).state.probe.Fits r.platform n ∧
      (r.supply n).Outcome bs (Schema.pass r.visit bs s).bindings
        (Schema.pass r.visit bs s).failure := by
  -- The probe changes from leaf to leaf; that it fits is the invariant, and all that the leaves
  -- need.
  induction bs generalizing s with
  | nil => exact ⟨h, List.forall_mem_nil _, .nil⟩
  | cons b bs ih =>
    obtain ⟨events, -, hfits, hstep⟩ := visit_step h b.field b.leaf
    cases hv : (r.visit b.field b.leaf s).failure with
    | some e =>
      rw [hv] at hstep
      rw [Schema.pass_cons_some hv]
      exact ⟨hfits, [], b, bs, [], _, rfl, rfl, List.forall_mem_nil _, .nil, hstep.breaks⟩
    | none =>
      rw [hv] at hstep
      rw [Schema.pass_cons_none hv]
      obtain ⟨hfits', hrest⟩ := ih hfits
      obtain ⟨haccepts, hsettles⟩ := hstep.settles
      exact ⟨hfits', hrest.cons haccepts hsettles⟩

end Resolver

end ConfigBinding
