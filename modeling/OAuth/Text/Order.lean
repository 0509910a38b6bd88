import OAuth.Text

/-!
# The order of texts

Texts are ordered by their first characters that differ, and a text comes before its extensions.
Code points grow with their UTF-8 encoding, so this is the order of the bytes too.

Main statement: of two texts one comes before the other, unless they are equal
(`Text.before_total`).
-/

namespace OAuth.Text

/-- By the first characters that differ. -/
def Before (s t : Text) : Prop := List.Lex (· < ·) s t

instance (s t : Text) : Decidable (s.Before t) := List.decidableLex (· < ·) s t

theorem before_irrefl (s : Text) : ¬ s.Before s := List.lex_irrefl Char.lt_irrefl s

theorem before_trans {s t u : Text} (hst : s.Before t) (htu : t.Before u) : s.Before u :=
  List.lex_trans Char.lt_trans hst htu

/-- Of two texts one comes first, unless they are equal. -/
theorem before_total (s t : Text) : s.Before t ∨ s = t ∨ t.Before s := by
  by_cases hst : s.Before t
  · exact .inl hst
  by_cases hts : t.Before s
  · exact .inr (.inr hts)
  · refine .inr (.inl (List.lex_trichotomous (fun a b hab hba => ?_) hts hst))
    exact Char.le_antisymm (Char.not_lt.1 hba) (Char.not_lt.1 hab)

end OAuth.Text
