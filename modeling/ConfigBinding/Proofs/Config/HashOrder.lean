import ConfigBinding.Proofs.Config.Wrapping
import ConfigBinding.Proofs.Leaf.HashOrder

/-!
# The orders of hashed maps

A configuration is given the orders in which the hashed maps of its leaves keep their entries. Views
show values by them; nothing else looks at them. So a run comes to the same configuration whatever
they are, and every answer that shows no values is the same (`config_run_withHashOrder`,
`answers_withHashOrder`).
-/

set_option autoImplicit false

namespace ConfigBinding

/-- The orders of hashed maps make no difference to what is shown of the group. -/
def Group.OrderFree (scope : String) (g : Group) : Prop :=
  ∀ x ∈ g.schema.bindings scope, x.field.isSecret = false → x.leaf.OrderFree

namespace Config

/-- The configuration with other orders of hashed maps. -/
def withHashOrder (c : Config) (order : HashOrder) : Config :=
  { c with hashOrder := order }

/-- The orders of hashed maps make no difference to what is shown of the configuration. -/
def OrderFree (c : Config) : Prop :=
  ∀ g ∈ c.groups, g.OrderFree c.scope

variable {order : HashOrder} {w : World}

theorem load_withHashOrder (c : Config) :
    (c.withHashOrder order).load w =
      { c.load w with config := (c.load w).config.withHashOrder order } := by
  by_cases hs : c.stage = .fieldsCollected
  · have hs' : (c.withHashOrder order).stage = .fieldsCollected := hs
    cases hl : (c.layered w (c.startEnvironment w)).result with
    | error error =>
      rw [load_of_layered_error hs hl, load_of_layered_error (c := c.withHashOrder order) hs' hl]
      rfl
    | ok e =>
      rw [load_of_layered hs hl, load_of_layered (c := c.withHashOrder order) hs' hl]
      rfl
  · have hs' : (c.withHashOrder order).stage ≠ .fieldsCollected := hs
    rw [load_of_not_fresh hs, load_of_not_fresh hs']

theorem outcome_load_withHashOrder (c : Config) :
    ((c.withHashOrder order).load w).outcome = (c.load w).outcome := by
  rw [load_withHashOrder]

/-- A load keeps the orders. -/
theorem withHashOrder_load (c : Config) :
    (c.load w).config.withHashOrder c.hashOrder = (c.load w).config :=
  (congrArg Loaded.config (load_withHashOrder c)).symm

/-- What an operation makes of a configuration does not hang on the orders. -/
theorem config_perform_withHashOrder (c : Config) (op : Operation) :
    ((c.withHashOrder order).perform w op).1 = (c.perform w op).1.withHashOrder order := by
  cases op with
  | load => simp only [perform, load_withHashOrder]
  | snapshot => simp only [perform, snapshot_eq]; rfl
  | logResolved => simp only [perform, logResolved, snapshot_eq]; rfl
  | usage => rfl
  | stage => rfl
  | environment => rfl

/-- The answer of an operation that shows no values does not hang on the orders. -/
theorem answer_perform_withHashOrder (c : Config) {op : Operation} (hsnapshot : op ≠ .snapshot)
    (hlog : op ≠ .logResolved) :
    ((c.withHashOrder order).perform w op).2 = (c.perform w op).2 := by
  cases op with
  | load => simp only [perform, load_withHashOrder]
  | snapshot => exact absurd rfl hsnapshot
  | logResolved => exact absurd rfl hlog
  | usage => rfl
  | stage => rfl
  | environment => rfl

/-- What a run makes of a configuration does not hang on the orders. -/
theorem config_run_withHashOrder (c : Config) (steps : List (World × Operation)) :
    ((c.withHashOrder order).run steps).1 = (c.run steps).1.withHashOrder order := by
  induction steps generalizing c with
  | nil => rfl
  | cons step steps ih => simp only [run, config_perform_withHashOrder, ih]

/-- The answers in a run that show no values do not hang on the orders. -/
theorem answers_withHashOrder (c : Config) {steps : List (World × Operation)} {i : Nat}
    {step : World × Operation} (hi : steps[i]? = some step) (hsnapshot : step.2 ≠ .snapshot)
    (hlog : step.2 ≠ .logResolved) :
    ((c.withHashOrder order).run steps).2[i]? = (c.run steps).2[i]? := by
  induction steps generalizing c i with
  | nil => rfl
  | cons first steps ih =>
    simp only [run, config_perform_withHashOrder]
    cases i with
    | zero =>
      obtain rfl := Option.some.inj hi
      exact congrArg some (answer_perform_withHashOrder c hsnapshot hlog)
    | succ i => exact ih _ hi

end Config

end ConfigBinding
