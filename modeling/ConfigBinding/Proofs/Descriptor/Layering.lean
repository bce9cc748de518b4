import ConfigBinding.Proofs.Descriptor.Faults
import ConfigBinding.Proofs.Environment.Offers

/-!
# What layering a descriptor adds

A descriptor's entries pass two filters before they are set: `candidates` leaves out secrets and
names that the environment has, and layering itself turns away what has no value and names that were
set meanwhile. The second covers the first, because no secret entry of a decoded descriptor has a
value (`value_eq_none_of_isSecret`). So what is added are the literal values of the descriptor that
the environment takes on, and nothing more the next time (`layer_candidates`).
-/

set_option autoImplicit false

namespace ConfigBinding

theorem ManifestEntry.value_toEntry {item : ManifestEntry} (h : item.toEntry.isSecret = true) :
    item.toEntry.value = none := by
  -- An entry that refers to a secret and has a value as well is read as the reference alone.
  unfold toEntry at h ⊢
  cases hs : item.secret with
  | some secret => rfl
  | none =>
    rw [hs] at h
    cases hv : item.value with
    | none => rw [hv] at h; cases h
    | some value => rw [hv] at h; cases h

namespace Descriptor

/-- The variables that the literal values of a descriptor set, in the order of the document. -/
def settings (d : Descriptor) : List Variable :=
  d.literals.filterMap Entry.variable?

theorem exists_manifest_of_parse {path : Path} {contents : String} {d : Descriptor}
    (h : (parse path contents).result = .ok d) :
    ∃ k m, (ofManifest path k m).result = .ok d := by
  unfold parse at h
  split at h
  · cases h
  · rename_i content _
    obtain ⟨e, hnode⟩ | ⟨k, m, hnode⟩ := ofNode_cases path (rootOf content)
    · rw [hnode] at h
      cases h
    · rw [hnode] at h
      exact ⟨k, m, h⟩

/-- No secret entry of a decoded descriptor has a value. -/
theorem value_eq_none_of_isSecret {path : Path} {contents : String} {d : Descriptor}
    (h : (parse path contents).result = .ok d) {entry : Entry} (hentry : entry ∈ d.entries)
    (hsecret : entry.isSecret = true) : entry.value = none := by
  obtain ⟨k, m, hm⟩ := exists_manifest_of_parse h
  unfold ofManifest at hm
  split at hm
  · cases hm
  · split at hm
    · cases hm
    · obtain rfl := Except.ok.inj hm
      obtain hname | hitem := List.mem_append.mp hentry
      · -- The entry for the name of the deployment is a literal.
        unfold nameEntry at hname
        split at hname
        · split at hname
          · cases hname
          · obtain rfl := List.mem_singleton.mp hname
            cases hsecret
        · cases hname
      · obtain ⟨item, -, rfl⟩ := List.mem_map.mp hitem
        exact ManifestEntry.value_toEntry hsecret

/-- Of literals, those of names that the environment has can be left out. -/
theorem layer_candidates_eq_literals (d : Descriptor) (e : Environment) :
    e.layer (d.candidates e) = e.layer d.literals := by
  refine Environment.layer_filter fun entry _ hp => .inr ?_
  simpa using hp

/-- Where secrets have no values, they can be left out as well. -/
theorem layer_literals {d : Descriptor}
    (h : ∀ entry ∈ d.entries, entry.isSecret = true → entry.value = none) (e : Environment) :
    e.layer d.literals = e.layer d.entries := by
  refine Environment.layer_filter fun entry hentry hp => .inl (h entry hentry ?_)
  simpa using hp

/-- **What layering a descriptor adds.** The environment stays as it is, and behind it come the
literal values of the descriptor that it takes on: in the order of the document, one variable for
each name that it lacks and that an entry which is no secret has a value for, with the value of the
first such entry. They are counted. To layer all entries comes to the same, to layer entries again
adds nothing, and a name that only secrets or entries without a value have is not added. -/
theorem layer_candidates {path : Path} {contents : String} {d : Descriptor}
    (hd : (parse path contents).result = .ok d) (e : Environment) :
    let out := e.layer (d.candidates e)
    (∃ added, out.1.toList = e.toList ++ added ∧ e.TakesOn d.settings added ∧
        (∀ v ∈ added, v.origin = .descriptor) ∧ out.2 = added.length) ∧
      e.layer d.entries = out ∧
      out.1.layer (d.candidates e) = (out.1, 0) ∧
      out.1.layer d.entries = (out.1, 0) ∧
      ∀ key, (∀ entry ∈ d.entries, entry.name = key →
          entry.isSecret = true ∨ entry.value = none) →
        e.contains key = false → out.1.contains key = false := by
  intro out
  have hsecrets : ∀ entry ∈ d.entries, entry.isSecret = true → entry.value = none :=
    fun entry => value_eq_none_of_isSecret hd
  have hliterals : out = e.layer d.literals := layer_candidates_eq_literals d e
  have hentries : out = e.layer d.entries := hliterals.trans (layer_literals hsecrets e)
  -- Every entry that has a value has found a variable of its name by now.
  have hset : ∀ entry ∈ d.entries, entry.value = none ∨ out.1.contains entry.name = true := by
    intro entry hentry
    by_cases hvalue : entry.value = none
    · exact .inl hvalue
    · rw [hentries, Environment.contains_layer_iff]
      exact .inr (.inr ⟨entry, hentry, rfl, hvalue⟩)
  have hcandidates : ∀ entry ∈ d.candidates e, entry ∈ d.entries := fun entry h =>
    List.mem_of_mem_filter (List.mem_of_mem_filter h)
  refine ⟨?_, hentries.symm,
    Environment.layer_eq_self fun entry h => hset entry (hcandidates entry h),
    Environment.layer_eq_self hset, fun key hkey hlacks => ?_⟩
  · obtain ⟨added, hlist, hcount, htakes⟩ := e.takesOn_layer d.literals
    rw [← hliterals] at hlist hcount
    refine ⟨added, hlist, htakes, fun v hv => ?_, hcount⟩
    obtain ⟨entry, -, hentry⟩ :=
      List.mem_filterMap.mp (List.mem_of_find?_eq_some ((htakes.mem_iff v).mp hv).2)
    obtain ⟨text, -, rfl⟩ := Option.map_eq_some_iff.mp hentry
    rfl
  · rw [hentries, Bool.eq_false_iff, Ne, Environment.contains_layer_iff]
    rintro (hhas | ⟨entry, hentry, hname, hvalue⟩)
    · rw [hlacks] at hhas
      cases hhas
    · obtain hsecret | hnone := hkey entry hentry hname
      · exact hvalue (hsecrets entry hentry hsecret)
      · exact hvalue hnone

/-- A manifest with a name that stands twice, a name of a secret, and a port. -/
def mixedManifest : String :=
  "\x7bkind: Service, spec: \x7btemplate: \x7bspec: \x7bcontainers: [\x7benv: [" ++
    "\x7bname: A, value: 1\x7d, \x7bname: A, value: 2\x7d, \x7bname: PORT, value: 80\x7d, " ++
    "\x7bname: T, valueFrom: \x7bsecretKeyRef: \x7bname: v, key: t\x7d\x7d\x7d" ++
    "]\x7d]\x7d\x7d\x7d\x7d"

def mixedDescriptor : Descriptor where
  path := ⟨"service.yaml"⟩
  kind := .service
  entries :=
    [Entry.literal "A" "1", Entry.literal "A" "2", Entry.literal "PORT" "80",
      Entry.secretRef "T" "v" "t"]

theorem layer_candidates_mixed :
    let e := Environment.ofPairs [("PORT", "9000")]
    let out := e.layer (mixedDescriptor.candidates e)
    (parse ⟨"service.yaml"⟩ mixedManifest).result = .ok mixedDescriptor ∧
      out.1.toList = [⟨"PORT", "9000", .explicit⟩, ⟨"A", "1", .descriptor⟩] ∧
      e.layer mixedDescriptor.entries = out ∧ out.1.layer mixedDescriptor.entries = (out.1, 0) ∧
      out.1.contains "T" = false := by
  intro e out
  have hparse : (parse ⟨"service.yaml"⟩ mixedManifest).result = .ok mixedDescriptor := by
    decide +kernel
  obtain ⟨-, hentries, -, hagain, hlacks⟩ := layer_candidates hparse e
  exact ⟨hparse, by decide, hentries, hagain, hlacks "T" (by decide) (by decide)⟩

end Descriptor

end ConfigBinding
