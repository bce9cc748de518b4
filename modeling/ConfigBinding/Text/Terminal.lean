import ConfigBinding.Text.Quoted

/-!
# Texts for a terminal

What a program complains of may hold a text from outside. The characters with which such a text
could steer the terminal are written as escapes, so that none is left
(`steersTerminal_of_mem_forTerminal`); all others, line breaks among them, stay as they are
(`forTerminal_of_calm`).
-/

set_option autoImplicit false

namespace ConfigBinding.Text

/-- Whether a terminal could take the character for a command: bell, backspace, form feed, escape,
delete, and the controls beyond ASCII. -/
def steersTerminal (c : Char) : Bool :=
  c == '\x07' || c == '\x08' || c == '\x0c' || c == '\x1b' || (0x7F ≤ c.toNat && c.toNat ≤ 0x9F)

/-- The escape of a character by its code in two digits. -/
def shortEscape (c : Char) : List Char :=
  ['\\', 'x', Nat.digitChar (c.toNat / 16), Nat.digitChar (c.toNat % 16)]

/-- A character as it is written to a terminal. -/
def terminalChar (c : Char) : List Char :=
  if !steersTerminal c then [c] else if c.toNat < 0x80 then shortEscape c else codeEscape c

/-- A text as it is written to a terminal. -/
def forTerminal (s : String) : String :=
  String.ofList (s.toList.flatMap terminalChar)

/-- A text without commands to the terminal is written as it is. -/
theorem forTerminal_of_calm {s : String} (h : ∀ c ∈ s.toList, steersTerminal c = false) :
    forTerminal s = s := by
  have key : ∀ cs : List Char, (∀ c ∈ cs, steersTerminal c = false) →
      cs.flatMap terminalChar = cs := by
    intro cs hcs
    induction cs with
    | nil => rfl
    | cons c cs ih =>
      simp_all [terminalChar]
  rw [forTerminal, key _ h, String.ofList_toList]

theorem steersTerminal_digitChar : ∀ n < 16, steersTerminal (Nat.digitChar n) = false := by
  decide

theorem steersTerminal_of_mem_hexDigits {n : Nat} (h : n < 256) {d : Char}
    (hd : d ∈ hexDigits n) : steersTerminal d = false := by
  by_cases hn : n < 16
  · rw [hexDigits, Nat.toDigits_of_lt_base hn, List.mem_singleton] at hd
    exact hd ▸ steersTerminal_digitChar n hn
  · rw [hexDigits, Nat.toDigits_of_base_le (by decide) (Nat.le_of_not_lt hn),
      Nat.toDigits_of_lt_base (by omega)] at hd
    simp only [List.cons_append, List.nil_append, List.mem_cons, List.not_mem_nil,
      or_false] at hd
    rcases hd with rfl | rfl
    · exact steersTerminal_digitChar _ (by omega)
    · exact steersTerminal_digitChar _ (by omega)

/-- A command to the terminal is one of the first codes. -/
theorem toNat_lt_of_steersTerminal {c : Char} (h : steersTerminal c = true) : c.toNat < 0xA0 := by
  simp only [steersTerminal, Bool.or_eq_true, beq_iff_eq, Bool.and_eq_true, decide_eq_true_eq] at h
  rcases h with (((rfl | rfl) | rfl) | rfl) | ⟨_, h⟩
  · decide
  · decide
  · decide
  · decide
  · omega

/-- The escapes hold no command to the terminal. -/
theorem steersTerminal_of_mem_terminalChar {c d : Char} (h : d ∈ terminalChar c) :
    steersTerminal d = false := by
  rw [terminalChar] at h
  split at h
  · simp_all
  · next hc =>
    have hlt : c.toNat < 0xA0 := toNat_lt_of_steersTerminal (by simpa using hc)
    split at h
    · simp only [shortEscape, List.mem_cons, List.not_mem_nil, or_false] at h
      rcases h with rfl | rfl | rfl | rfl
      · decide
      · decide
      · exact steersTerminal_digitChar _ (by omega)
      · exact steersTerminal_digitChar _ (by omega)
    · simp only [codeEscape, List.cons_append, List.nil_append, List.mem_cons,
        List.mem_append, List.not_mem_nil, or_false] at h
      rcases h with rfl | rfl | rfl | h | rfl
      · decide
      · decide
      · decide
      · exact steersTerminal_of_mem_hexDigits (by omega) h
      · decide

theorem steersTerminal_of_mem_forTerminal {s : String} {d : Char}
    (h : d ∈ (forTerminal s).toList) : steersTerminal d = false := by
  rw [forTerminal, String.toList_ofList] at h
  obtain ⟨c, _, hd⟩ := List.mem_flatMap.1 h
  exact steersTerminal_of_mem_terminalChar hd

end ConfigBinding.Text
