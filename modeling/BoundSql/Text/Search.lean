/-!
# Finding one text inside another

`occursIn` decides whether a text stands somewhere in another one without gaps.
-/

namespace BoundSql.Text

/-- Whether `pattern` stands somewhere in the text, as consecutive characters. -/
def occursIn (pattern : List Char) : List Char → Bool
  | [] => pattern.isEmpty
  | c :: s => pattern.isPrefixOf (c :: s) || occursIn pattern s

theorem occursIn_iff {pattern s : List Char} : occursIn pattern s = true ↔ pattern <:+: s := by
  induction s with
  | nil => simp [occursIn]
  | cons c s ih => simp [occursIn, ih, List.infix_cons_iff]

end BoundSql.Text
