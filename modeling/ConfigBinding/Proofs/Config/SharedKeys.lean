import ConfigBinding.Proofs.Config.Building
import ConfigBinding.Proofs.Descriptor.Faults
import Mathlib.Data.List.Induction

/-!
# Keys that stand twice

Within a group a key that stands twice keeps the configuration from being built; the first group
that repeats one is named, with the first key in it that does (`collectGroups_eq_error_iff`).
Between groups it is reported: every key of a group that an earlier group has, with the nearest of
these (`sharedKeys_keyed`). The reports come from one table of owners, of which only the latest
entry of a key counts, and within a group no key meets an entry of its own group because none stands
there twice.
-/

set_option autoImplicit false

namespace ConfigBinding

/-- Whether an event reports that the key is shared. -/
def Event.reportsShared (key : String) : Event → Bool
  | keyShared shared _ _ => shared == key
  | _ => false

namespace Config

/-! ## Within a group -/

/-- A key that is found is the first that stands earlier in the list or among those seen before. -/
theorem firstRepeated?_eq_some_iff {seen ks : List String} {k : String} :
    firstRepeated? seen ks = some k ↔
      ∃ before after, ks = before ++ k :: after ∧ before.Nodup ∧ (∀ x ∈ before, x ∉ seen) ∧
        (k ∈ seen ∨ k ∈ before) := by
  induction ks generalizing seen with
  | nil => simp [firstRepeated?]
  | cons x xs ih =>
    rw [firstRepeated?]
    by_cases hx : x ∈ seen
    · rw [if_pos (List.contains_iff_mem.mpr hx), Option.some.injEq]
      constructor
      · rintro rfl
        exact ⟨[], xs, rfl, .nil, List.forall_mem_nil _, .inl hx⟩
      · rintro ⟨before, after, hxs, -, hnew, -⟩
        cases before with
        | nil => exact (List.cons.inj hxs).1
        | cons b before =>
          obtain ⟨rfl, -⟩ := List.cons.inj hxs
          exact absurd hx (hnew x List.mem_cons_self)
    · rw [if_neg (fun h => hx (List.contains_iff_mem.mp h)), ih]
      constructor
      · rintro ⟨before, after, rfl, hnodup, hnew, hk⟩
        have hbefore : x ∉ before := fun h => hnew x h List.mem_cons_self
        refine ⟨x :: before, after, rfl, List.nodup_cons.mpr ⟨hbefore, hnodup⟩,
          List.forall_mem_cons.mpr ⟨hx, fun y hy h => hnew y hy (List.mem_cons_of_mem x h)⟩, ?_⟩
        rw [List.mem_cons] at hk ⊢
        tauto
      · rintro ⟨before, after, hxs, hnodup, hnew, hk⟩
        cases before with
        | nil =>
          obtain ⟨rfl, -⟩ := List.cons.inj hxs
          exact absurd (hk.resolve_right List.not_mem_nil) hx
        | cons b before =>
          obtain ⟨rfl, rfl⟩ := List.cons.inj hxs
          obtain ⟨hb, hnodup⟩ := List.nodup_cons.mp hnodup
          obtain ⟨-, hnew⟩ := List.forall_mem_cons.mp hnew
          refine ⟨before, after, rfl, hnodup, fun y hy h => ?_, ?_⟩
          · obtain rfl | h := List.mem_cons.mp h
            · exact hb hy
            · exact hnew y hy h
          · rw [List.mem_cons] at hk ⊢
            tauto

theorem firstRepeated?_eq_none_iff {seen ks : List String} :
    firstRepeated? seen ks = none ↔ ks.Nodup ∧ ∀ x ∈ ks, x ∉ seen := by
  induction ks generalizing seen with
  | nil => simp [firstRepeated?]
  | cons x xs ih =>
    rw [firstRepeated?, List.nodup_cons, List.forall_mem_cons]
    by_cases hx : x ∈ seen
    · simp [hx]
    · rw [if_neg (fun h => hx (List.contains_iff_mem.mp h)), ih]
      simp only [List.mem_cons, not_or, forall_and, hx, not_false_eq_true, true_and]
      have hne : (∀ y ∈ xs, y ≠ x) ↔ x ∉ xs :=
        ⟨fun h hmem => h x hmem rfl, fun h y hy heq => h (heq ▸ hy)⟩
      rw [hne]
      tauto

/-- The keys that are collected from a group, in the order of declaration. -/
def collectedKeys (scope : String) (g : String × Schema Leaf) : List String :=
  (g.2.collect scope).2.map Field.key

theorem collectedKeys_eq (scope : String) (g : String × Schema Leaf) :
    collectedKeys scope g = g.2.keys scope := by
  rw [collectedKeys, Schema.collect_eq, List.map_map, ← Schema.map_key_bindings]
  rfl

/-- Groups are collected exactly if no key stands twice in any of them. -/
theorem exists_build_iff {s : Settings} {groups : List (String × Schema Leaf)} :
    (∃ c, (build s groups).result = .ok c) ↔ ∀ g ∈ groups, (g.2.keys s.scope).Nodup := by
  simp [build_eq_ok_iff, firstRepeated?_eq_none_iff]

/-- Collecting groups fails for the first that repeats a key, with the first key that it repeats. -/
theorem collectGroups_eq_error_iff {scope : String} {gs : List (String × Schema Leaf)}
    {e : ConfigError} :
    collectGroups scope gs = .error e ↔
      ∃ before g after, gs = before ++ g :: after ∧
        (∃ earlier key later, g.2.keys scope = earlier ++ key :: later ∧ earlier.Nodup ∧
          key ∈ earlier ∧ e = .duplicateKey g.1 key) ∧
        ∀ h ∈ before, (h.2.keys scope).Nodup := by
  induction gs with
  | nil => simp [collectGroups]
  | cons g gs ih =>
    rw [Descriptor.exists_first_cons_iff, ← ih, collectGroups, collectGroup_eq]
    cases hfirst : firstRepeated? [] (g.2.keys scope) with
    | some k =>
      obtain ⟨before, after, hkeys, hnodup, -, hmem⟩ := firstRepeated?_eq_some_iff.mp hfirst
      have hrepeats : ¬ (g.2.keys scope).Nodup := fun h => by
        rw [firstRepeated?_eq_none_iff.mpr ⟨h, fun _ _ => List.not_mem_nil⟩] at hfirst
        cases hfirst
      simp only [hrepeats, false_and, or_false, Except.error.injEq]
      constructor
      · rintro rfl
        exact ⟨before, k, after, hkeys, hnodup, hmem.resolve_left List.not_mem_nil, rfl⟩
      · rintro ⟨earlier, key, later, hkeys', hnodup', hmem', rfl⟩
        have hkey : firstRepeated? [] (g.2.keys scope) = some key :=
          firstRepeated?_eq_some_iff.mpr
            ⟨earlier, later, hkeys', hnodup', fun _ _ => List.not_mem_nil, .inr hmem'⟩
        rw [hfirst, Option.some.injEq] at hkey
        rw [hkey]
    | none =>
      obtain ⟨hnodup, -⟩ := firstRepeated?_eq_none_iff.mp hfirst
      have hunrepeated : ¬ ∃ earlier key later, g.2.keys scope = earlier ++ key :: later ∧
          earlier.Nodup ∧ key ∈ earlier ∧ e = .duplicateKey g.1 key := by
        rintro ⟨earlier, key, later, hkeys, -, hmem, -⟩
        rw [hkeys] at hnodup
        exact (List.nodup_append.mp hnodup).2.2 key hmem key List.mem_cons_self rfl
      simp only [hunrepeated, false_or, hnodup, true_and]
      cases collectGroups scope gs <;> simp

/-! ## Between groups -/

/-- The nearest of the groups before one that has a key. -/
def nearest? (scope key : String) (earlier : List (String × Schema Leaf)) :
    Option (String × Schema Leaf) :=
  earlier.reverse.find? fun h => key ∈ h.2.keys scope

/-- The reports of a group: one for each of its keys that an earlier group has, with the nearest. -/
def sharedReports (scope : String) (earlier : List (String × Schema Leaf))
    (g : String × Schema Leaf) : List Event :=
  (g.2.keys scope).filterMap fun key =>
    (nearest? scope key earlier).map fun h => .keyShared key h.1 g.1

/-- The keys of a group with its name. -/
def keyed (scope : String) (g : String × Schema Leaf) : List (String × String) :=
  (g.2.keys scope).map fun key => (key, g.1)

theorem keyedGroups_collected (scope : String) (groups : List (String × Schema Leaf)) :
    keyedGroups (groups.map (Group.collected scope)) = groups.flatMap (keyed scope) := by
  rw [keyedGroups, List.flatMap_map]
  refine List.flatMap_congr fun g _ => ?_
  rw [keyed, ← Schema.map_key_bindings, List.map_map, Group.collected, List.map_map]
  rfl

theorem sharedKeys_append (owners pairs later : List (String × String)) :
    sharedKeys owners (pairs ++ later) =
      sharedKeys owners pairs ++ sharedKeys (pairs.reverse ++ owners) later := by
  induction pairs generalizing owners with
  | nil => rfl
  | cons p pairs ih =>
    obtain ⟨key, name⟩ := p
    simp only [List.cons_append, sharedKeys, ih, List.append_assoc, List.reverse_cons,
      List.nil_append]

/-- Where no key stands twice, only the owners there were before are reported. -/
theorem sharedKeys_of_nodup {keys : List String} (h : keys.Nodup) (name : String)
    (owners : List (String × String)) :
    sharedKeys owners (keys.map fun key => (key, name)) =
      keys.filterMap fun key => (owners.lookup key).map fun first => .keyShared key first name := by
  induction keys generalizing owners with
  | nil => rfl
  | cons key keys ih =>
    obtain ⟨hkey, hkeys⟩ := List.nodup_cons.mp h
    have hsame : ∀ k ∈ keys, ((key, name) :: owners).lookup k = owners.lookup k := by
      intro k hk
      have hne : (k == key) = false := beq_eq_false_iff_ne.mpr fun heq => hkey (heq ▸ hk)
      rw [List.lookup_cons, hne]
    rw [List.map_cons, sharedKeys, ih hkeys, List.filterMap_cons]
    rw [List.filterMap_congr fun k hk => by rw [hsame k hk]]
    cases owners.lookup key <;> rfl

theorem lookup_keyed_reverse (scope key : String) (g : String × Schema Leaf) :
    (keyed scope g).reverse.lookup key =
      if key ∈ g.2.keys scope then some g.1 else none := by
  have h : ∀ keys : List String, (keys.map fun k => (k, g.1)).lookup key =
      if key ∈ keys then some g.1 else none := by
    intro keys
    induction keys with
    | nil => rfl
    | cons k keys ih =>
      rw [List.map_cons, List.lookup_cons, ih]
      by_cases hk : key = k
      · simp [hk]
      · simp [hk, beq_eq_false_iff_ne.mpr hk]
  rw [keyed, ← List.map_reverse, h]
  simp only [List.mem_reverse]

/-- The table of owners after groups holds, for each key, the nearest group that has it. -/
theorem lookup_owners (scope key : String) (groups : List (String × Schema Leaf)) :
    (groups.flatMap (keyed scope)).reverse.lookup key =
      (nearest? scope key groups).map Prod.fst := by
  induction groups using List.reverseRecOn with
  | nil => rfl
  | append_singleton groups g ih =>
    rw [List.flatMap_append, List.flatMap_singleton, List.reverse_append, List.lookup_append, ih,
      lookup_keyed_reverse, nearest?, nearest?, List.reverse_append, List.reverse_singleton,
      List.singleton_append, List.find?_cons]
    by_cases hkey : key ∈ g.2.keys scope <;> simp [hkey]

/-- Where no key stands twice in a group, the reports are those of the groups in turn, each with
those before it. -/
theorem sharedKeys_keyed {scope : String} {later : List (String × Schema Leaf)}
    (h : ∀ g ∈ later, (g.2.keys scope).Nodup) (earlier : List (String × Schema Leaf)) :
    sharedKeys (earlier.flatMap (keyed scope)).reverse (later.flatMap (keyed scope)) =
      (later.zipIdx earlier.length).flatMap fun p =>
        sharedReports scope ((earlier ++ later).take p.2) p.1 := by
  induction later generalizing earlier with
  | nil => rfl
  | cons g later ih =>
    obtain ⟨hg, hlater⟩ := List.forall_mem_cons.mp h
    have hrest := ih hlater (earlier ++ [g])
    rw [List.flatMap_append, List.flatMap_singleton, List.reverse_append, List.length_append,
      List.length_singleton, List.append_assoc, List.singleton_append] at hrest
    rw [List.flatMap_cons, sharedKeys_append, hrest, List.zipIdx_cons, List.flatMap_cons,
      List.take_left, keyed, sharedKeys_of_nodup hg, sharedReports]
    simp only [lookup_owners, Option.map_map, Function.comp_def]

/-! ## How often a key is reported -/

theorem nearest?_isSome {scope key : String} {earlier : List (String × Schema Leaf)} :
    (nearest? scope key earlier).isSome = earlier.any fun h => key ∈ h.2.keys scope := by
  rw [nearest?, List.isSome_find?, List.any_reverse]

/-- A group reports a key once if it has it and an earlier group does too. -/
theorem countP_sharedReports {scope key : String} {earlier : List (String × Schema Leaf)}
    {g : String × Schema Leaf} (h : (g.2.keys scope).Nodup) :
    (sharedReports scope earlier g).countP (Event.reportsShared key) =
      if key ∈ g.2.keys scope ∧ (nearest? scope key earlier).isSome then 1 else 0 := by
  unfold sharedReports
  generalize g.2.keys scope = keys at h ⊢
  induction keys with
  | nil => simp
  | cons k keys ih =>
    obtain ⟨hk, hkeys⟩ := List.nodup_cons.mp h
    have ih := ih hkeys
    rw [List.filterMap_cons]
    by_cases hkey : k = key
    · subst hkey
      rw [if_neg (fun hc => hk hc.1)] at ih
      cases hn : nearest? scope k earlier with
      | none => simpa [hn] using ih
      | some found => simp [Event.reportsShared, ih]
    · have hmem : key ∈ k :: keys ↔ key ∈ keys := by simp [Ne.symm hkey]
      simp only [hmem]
      rw [← ih]
      cases nearest? scope k earlier with
      | none => rfl
      | some found => simp [Event.reportsShared, hkey]

/-- A key is reported by all groups that have it but the first. -/
theorem countP_reports {scope key : String} {later : List (String × Schema Leaf)}
    (h : ∀ g ∈ later, (g.2.keys scope).Nodup) (earlier : List (String × Schema Leaf)) :
    ((later.zipIdx earlier.length).flatMap fun p =>
        sharedReports scope ((earlier ++ later).take p.2) p.1).countP (Event.reportsShared key) =
      later.countP (fun g => key ∈ g.2.keys scope) -
        if (nearest? scope key earlier).isSome then 0 else 1 := by
  induction later generalizing earlier with
  | nil => simp
  | cons g later ih =>
    obtain ⟨hg, hlater⟩ := List.forall_mem_cons.mp h
    have hrest := ih hlater (earlier ++ [g])
    rw [List.length_append, List.length_singleton, List.append_assoc,
      List.singleton_append] at hrest
    rw [List.zipIdx_cons, List.flatMap_cons, List.countP_append, hrest, List.take_left,
      countP_sharedReports hg, nearest?_isSome, nearest?_isSome, List.any_append, List.countP_cons]
    by_cases hkey : key ∈ g.2.keys scope <;>
      cases earlier.any (fun h => decide (key ∈ h.2.keys scope)) <;>
        simp [hkey, Nat.add_comm]

/-- **Keys that stand twice.** The keys of a group are those that are collected from it. A
configuration is built exactly if the keys of each group are distinct. Otherwise building fails for
the first group that repeats a key, with the key at the first place of it that repeats one, and
nothing is reported. What is reported of a configuration that is built are, group by group and key
by key, the keys that an earlier group has, each with the nearest of these; so a key is reported
once less often than there are groups that have it. -/
theorem keys_standing_twice (s : Settings) (groups : List (String × Schema Leaf)) :
    let built := build s groups
    let keys := fun g : String × Schema Leaf => g.2.keys s.scope
    (∀ g ∈ groups, (g.2.collect s.scope).2.map Field.key = keys g) ∧
      ((∃ c, built.result = .ok c) ↔ ∀ g ∈ groups, (keys g).Nodup) ∧
      (∀ error, built.result = .error error ↔
        ∃ before g after, groups = before ++ g :: after ∧
          (∃ earlier key later, keys g = earlier ++ key :: later ∧ earlier.Nodup ∧
            key ∈ earlier ∧ error = .duplicateKey g.1 key) ∧
          ∀ h ∈ before, (keys h).Nodup) ∧
      (∀ error, built.result = .error error → built.events = []) ∧
      ∀ c, built.result = .ok c →
        built.events =
            groups.zipIdx.flatMap (fun p => sharedReports s.scope (groups.take p.2) p.1) ∧
          ∀ key, built.events.countP (Event.reportsShared key) =
            groups.countP (fun g => key ∈ keys g) - 1 := by
  intro built keys
  refine ⟨fun g _ => collectedKeys_eq s.scope g, exists_build_iff, fun error => ?_,
    fun error herror => ?_, fun c hc => ?_⟩
  · rw [← collectGroups_eq_error_iff]
    simp only [built, build]
    cases collectGroups s.scope groups <;> simp
  · simp only [built, build] at herror ⊢
    cases hcollected : collectGroups s.scope groups with
    | error _ => rfl
    | ok out => rw [hcollected] at herror; cases herror
  · have hdistinct := exists_build_iff.mp ⟨c, hc⟩
    have hevents : built.events =
        groups.zipIdx.flatMap fun p => sharedReports s.scope (groups.take p.2) p.1 := by
      have hcollected : collectGroups s.scope groups = .ok (groups.map (Group.collected s.scope)) :=
        collectGroups_eq_ok_iff.mpr ⟨(build_eq_ok_iff.mp hc).1, rfl⟩
      have hreports : built.events = sharedKeys [] (groups.flatMap (keyed s.scope)) := by
        simp only [built, build, hcollected, keyedGroups_collected]
      rw [hreports]
      exact sharedKeys_keyed hdistinct []
    refine ⟨hevents, fun key => ?_⟩
    rw [hevents]
    exact countP_reports hdistinct []

/-- Of three groups that have a key, the second and the third report it, each with the one before. A
group in which another field takes the key as well is not collected. -/
theorem keys_standing_twice_zone :
    let zone := Schema.ofLeaves [(⟨"zone", Tags.empty⟩, Leaf.new (.kind .text))]
    let area := Schema.ofLeaves
      [(⟨"zone", Tags.empty⟩, Leaf.new (.kind .text)),
        (⟨"area", ⟨[(Tags.variableKey, "ZONE")]⟩⟩, Leaf.new (.kind .text))]
    let built := build .default [("north", zone), ("south", zone), ("west", zone)]
    (∃ c, built.result = .ok c) ∧
      built.events = [.keyShared "ZONE" "north" "south", .keyShared "ZONE" "south" "west"] ∧
      built.events.countP (Event.reportsShared "ZONE") = 2 ∧
      (build .default [("north", zone), ("south", area)]).result =
        .error (.duplicateKey "south" "ZONE") := by
  intro zone area built
  obtain ⟨-, hbuilt, -, -, hreports⟩ := keys_standing_twice .default
    [("north", zone), ("south", zone), ("west", zone)]
  obtain ⟨-, -, hrefused, -⟩ := keys_standing_twice .default [("north", zone), ("south", area)]
  obtain ⟨c, hc⟩ := hbuilt.mpr (by decide)
  obtain ⟨hevents, hcount⟩ := hreports c hc
  refine ⟨⟨c, hc⟩, hevents.trans (by decide +kernel), (hcount "ZONE").trans (by decide), ?_⟩
  exact (hrefused _).mpr ⟨[("north", zone)], ("south", area), [], rfl,
    ⟨["ZONE"], "ZONE", [], by decide, by decide, by decide, rfl⟩, by decide⟩

end Config

end ConfigBinding
