import ConfigBinding.Error
import ConfigBinding.Event

/-!
# Resolution

Which value a field takes: the environment's value for its key, else the field's default, else its
value for the cloud platform, when the program runs there. Whether it does is asked for only when a
field comes to that tier, and at most once in a load.
-/

set_option autoImplicit false

namespace ConfigBinding

/-- A value with the tier that supplied it. -/
structure Resolved where
  value : String
  source : Source
  deriving DecidableEq, Repr

/-- What the environment and the tags of a field say before the platform is asked. -/
inductive Candidate where
  | settled (r : Resolved)
  | ifOnPlatform (value : String)
  | absent
  deriving DecidableEq

namespace Field

/-- What the environment and the tags say about the value of a field. -/
def candidate (f : Field) (e : Environment) : Candidate :=
  match e.get? f.key with
  | some v => .settled ⟨v.value, .environment v.origin⟩
  | none =>
    match f.default? with
    | some value => .settled ⟨value, .default⟩
    | none =>
      match f.onPlatform? with
      | some value => .ifOnPlatform value
      | none => .absent

/-- Whether the value of a field hangs on the platform. -/
def asksPlatform (f : Field) (e : Environment) : Bool :=
  match f.candidate e with
  | .ifOnPlatform _ => true
  | _ => false

/-- The value a field takes, given whether the program runs on the platform. -/
def resolve (f : Field) (e : Environment) (onPlatform : Bool) : Option Resolved :=
  match f.candidate e with
  | .settled r => some r
  | .ifOnPlatform value => if onPlatform then some ⟨value, .onPlatform⟩ else none
  | .absent => none

end Field

/-- The answers that the platform gives to the first, the second, … question whether the program
runs on it. -/
abbrev Platform :=
  Nat → Bool

/-- What is known of the platform: how often it was asked, and the answer that is kept. -/
structure Probe where
  asked : Nat
  answer : Option Bool
  deriving DecidableEq, Repr

/-- The kept answer, after asking for one if there is none. -/
def Probe.ask (p : Probe) (platform : Platform) : Bool × Probe :=
  match p.answer with
  | some b => (b, p)
  | none => (platform p.asked, ⟨p.asked + 1, some (platform p.asked)⟩)

/-- The value a field takes; the platform is asked if the value hangs on it. -/
def Probe.resolve (p : Probe) (platform : Platform) (f : Field) (e : Environment) :
    Option Resolved × Probe :=
  if f.asksPlatform e then
    let (onPlatform, p) := p.ask platform
    (f.resolve e onPlatform, p)
  else (f.resolve e false, p)

/-- What is fixed for the resolution of a load. -/
structure Resolver where
  environment : Environment
  platform : Platform
  optionalSecrets : Bool

/-- What changes during the resolution of a load. -/
structure Resolving where
  probe : Probe
  events : List Event

/-- Whether a load fails when a field has no value. -/
def Resolver.demands (r : Resolver) (f : Field) : Bool :=
  f.isRequired && !(r.optionalSecrets && f.isSecret)

/-- Gives a leaf the value its field takes. -/
def Resolver.visit (r : Resolver) (f : Field) (l : Leaf) (s : Resolving) :
    Schema.Visit Resolving ConfigError :=
  match s.probe.resolve r.platform f r.environment with
  | (none, probe) =>
    ⟨l, { s with probe }, if r.demands f then some (.missingRequired f.key) else none⟩
  | (some ⟨value, source⟩, probe) =>
    match l.assign value with
    | .ok l => ⟨l, ⟨probe, s.events ++ [.valueResolved f.key source]⟩, none⟩
    | .error cause =>
      ⟨l.afterRefusal value, { s with probe },
        some (.parse ⟨f.key, f.name, f.typeName, value, f.isSecret, cause⟩)⟩

end ConfigBinding
