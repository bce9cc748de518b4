import ConfigBinding.Proofs.Snapshot.Lookup
import ConfigBinding.Proofs.Text.Pieces

/-!
# Reading snapshots

The text of a snapshot is one line for each group and each value (`render_eq`). Where names and keys
are such that a line tells what it is, and nothing is broken over lines (`GroupSnapshot.Legible`),
the snapshot is read back from its text (`ofText_render`): an indented line is a value, which
belongs to the nearest group above it, and the first equals sign in it ends the key.
-/

set_option autoImplicit false

namespace ConfigBinding

namespace GroupSnapshot

/-- The line of a value, without its end. -/
def entry (v : String × String) : String :=
  "  " ++ v.1 ++ "=" ++ v.2

/-- The lines of a group, without their ends. -/
def lines (g : GroupSnapshot) : List String :=
  (g.name ++ ":") :: g.values.map entry

/-- The lines of a group tell what they are: none is broken, the name is not indented as values are,
and no key has an equals sign. -/
structure Legible (g : GroupSnapshot) : Prop where
  name : '\n' ∉ g.name.toList
  unindented : ¬ [' ', ' '] <+: g.name.toList
  keys : ∀ v ∈ g.values, '\n' ∉ v.1.toList ∧ '=' ∉ v.1.toList
  values : ∀ v ∈ g.values, '\n' ∉ v.2.toList

theorem Legible.newline_not_mem {g : GroupSnapshot} (h : g.Legible) :
    ∀ l ∈ g.lines, '\n' ∉ l.toList := by
  have hentry : ∀ v ∈ g.values, '\n' ∉ (entry v).toList := fun v hv => by
    have hkey := (h.keys v hv).1
    have hvalue := h.values v hv
    simp [entry, hkey, hvalue]
  have hname := h.name
  refine List.forall_mem_cons.mpr ⟨by simp [hname], List.forall_mem_map.mpr hentry⟩

end GroupSnapshot

namespace Snapshot

open GroupSnapshot (entry)

/-! ## Lines -/

/-- The lines of a snapshot, without their ends. -/
def lines (s : Snapshot) : List String :=
  s.groups.flatMap GroupSnapshot.lines

theorem groupLines_eq (g : GroupSnapshot) :
    groupLines g = String.join (g.lines.map (· ++ "\n")) := by
  have hentries : g.values.map valueLine = (g.values.map entry).map (· ++ "\n") := by
    rw [List.map_map]
    rfl
  have hheader : g.name ++ ":\n" = g.name ++ ":" ++ "\n" := by
    rw [String.append_assoc]
    rfl
  rw [groupLines, hentries, hheader, GroupSnapshot.lines, List.map_cons, String.join_cons]

theorem render_eq (s : Snapshot) : s.render = String.join (s.lines.map (· ++ "\n")) := by
  obtain ⟨groups⟩ := s
  rw [render, lines]
  induction groups with
  | nil => rfl
  | cons g groups ih =>
    rw [List.map_cons, String.join_cons, ih, groupLines_eq, List.flatMap_cons, List.map_append,
      String.join_append]

/-- There is a line for each group and for each key in it. -/
theorem length_lines (s : Snapshot) :
    s.lines.length = s.keys.length + (s.keys.flatMap Prod.snd).length := by
  obtain ⟨groups⟩ := s
  simp only [lines, keys]
  induction groups with
  | nil => rfl
  | cons g groups ih =>
    simp only [List.flatMap_cons, List.map_cons, List.length_append, List.length_cons, ih,
      GroupSnapshot.lines, List.length_map]
    omega

/-! ## Reading -/

/-- Whether a line is indented. -/
def isEntry (l : String) : Bool :=
  [' ', ' '].isPrefixOf l.toList

/-- The key and the value in an indented line: what stands before and after the first equals
sign. -/
def readEntry (l : String) : String × String :=
  let cs := l.toList.drop 2
  (String.ofList (cs.takeWhile (· != '=')), String.ofList ((cs.dropWhile (· != '=')).drop 1))

/-- The groups in lines, and the values above the first of them. -/
def readLines : List String → List (String × String) × List GroupSnapshot
  | [] => ([], [])
  | l :: ls =>
    let (values, groups) := readLines ls
    if isEntry l then (readEntry l :: values, groups)
    else ([], ⟨String.ofList l.toList.dropLast, values⟩ :: groups)

/-- The snapshot that a text is of. -/
def ofText (text : String) : Snapshot :=
  ⟨(readLines (Text.pieces '\n' text).dropLast).2⟩

theorem toList_entry (v : String × String) :
    (entry v).toList = ' ' :: ' ' :: (v.1.toList ++ '=' :: v.2.toList) := by
  simp [entry]

theorem isEntry_entry (v : String × String) : isEntry (entry v) = true := by
  rw [isEntry, toList_entry]
  rfl

theorem readEntry_entry {v : String × String} (h : '=' ∉ v.1.toList) : readEntry (entry v) = v := by
  have hkey : ∀ c ∈ v.1.toList, (c != '=') = true := fun c hc => by
    simpa using fun hsame : c = '=' => h (hsame ▸ hc)
  have htext : (entry v).toList.drop 2 = v.1.toList ++ '=' :: v.2.toList := by
    rw [toList_entry]
    rfl
  simp only [readEntry, htext, List.takeWhile_append_of_pos hkey, List.dropWhile_append_of_pos hkey]
  simp

theorem isEntry_header {name : String} (h : ¬ [' ', ' '] <+: name.toList) :
    isEntry (name ++ ":") = false := by
  have hcolon : ":".toList = [':'] := rfl
  rw [isEntry, String.toList_append, hcolon, Bool.eq_false_iff, ne_eq, List.isPrefixOf_iff_prefix]
  intro hprefix
  rcases List.prefix_concat_iff.mp hprefix with hall | hindented
  · have hlast := congrArg List.getLast? hall
    simp at hlast
  · exact h hindented

theorem readLines_entries {values : List (String × String)}
    (h : ∀ v ∈ values, '=' ∉ v.1.toList) (ls : List String) :
    readLines (values.map entry ++ ls) = (values ++ (readLines ls).1, (readLines ls).2) := by
  induction values with
  | nil => rfl
  | cons v values ih =>
    obtain ⟨hv, hvalues⟩ := List.forall_mem_cons.mp h
    rw [List.map_cons, List.cons_append, readLines, ih hvalues]
    simp only [isEntry_entry, if_true, readEntry_entry hv, List.cons_append]

/-- The lines of legible groups are read as these groups, from the last to the first. -/
theorem readLines_groups {groups : List GroupSnapshot} (h : ∀ g ∈ groups, g.Legible) :
    readLines (groups.flatMap GroupSnapshot.lines) = ([], groups) := by
  induction groups with
  | nil => rfl
  | cons g groups ih =>
    obtain ⟨hg, hgroups⟩ := List.forall_mem_cons.mp h
    rw [List.flatMap_cons, GroupSnapshot.lines, List.cons_append, readLines,
      readLines_entries fun v hv => (hg.keys v hv).2, ih hgroups]
    simp [isEntry_header hg.unindented]

section
variable {s : Snapshot}

theorem pieces_render (h : ∀ g ∈ s.groups, g.Legible) :
    Text.pieces '\n' s.render = s.lines ++ [""] := by
  rw [render_eq]
  refine Text.pieces_lines fun l hl => ?_
  obtain ⟨g, hg, hmem⟩ := List.mem_flatMap.mp hl
  exact (h g hg).newline_not_mem l hmem

/-- A legible snapshot is read from its text. -/
theorem ofText_render (h : ∀ g ∈ s.groups, g.Legible) : ofText s.render = s := by
  rw [ofText, pieces_render h, List.dropLast_concat, lines, readLines_groups h]

end

end Snapshot

end ConfigBinding
