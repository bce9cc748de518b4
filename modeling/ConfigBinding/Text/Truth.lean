/-!
# Truth values

The twelve spellings of a truth value: a digit, a letter or the word, the letter and the word in
lower case, in upper case, and the word with a capital.
-/

set_option autoImplicit false

namespace ConfigBinding.Text

/-- The truth value that a text spells. -/
def truth? (s : String) : Option Bool :=
  if s ∈ ["1", "t", "T", "TRUE", "true", "True"] then some true
  else if s ∈ ["0", "f", "F", "FALSE", "false", "False"] then some false
  else none

/-- The text of a truth value. -/
def ofTruth (b : Bool) : String :=
  if b then "true" else "false"

theorem truth?_ofTruth (b : Bool) : truth? (ofTruth b) = some b := by
  cases b <;> decide

end ConfigBinding.Text
