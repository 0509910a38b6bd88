import OAuth.Text

/-!
# Tables of code points

A property of characters is kept as ranges of code points, each with what holds there. Main
statement: `Table.find?_eq_some`, what a table says of a code point is said of a range with it.
-/

namespace OAuth.Unicode

/-- The code points from `low` to `high`. -/
structure Span where
  /-- the first code point -/
  low : Nat
  /-- the last code point -/
  high : Nat
  deriving DecidableEq, Repr

/-- Whether a code point lies in a range. -/
def Span.contains (span : Span) (n : Nat) : Bool := span.low ≤ n && n ≤ span.high

/-- Ranges, and what is said of each. -/
abbrev Table (α : Type) := List (Span × α)

namespace Table

variable {α : Type}

/-- The table of some ranges, of which only this is said that they are in it. -/
def ofSpans (spans : List (Nat × Nat)) : Table Unit :=
  spans.map fun (low, high) => (⟨low, high⟩, ())

/-- The table of some ranges with what is said of each. -/
def ofEntries (entries : List (Nat × Nat × α)) : Table α :=
  entries.map fun (low, high, a) => (⟨low, high⟩, a)

/-- What a table says of a code point. -/
def find? (table : Table α) (n : Nat) : Option α :=
  (List.find? (fun entry => entry.1.contains n) table).map Prod.snd

/-- Whether a table speaks of a code point. -/
def has (table : Table α) (n : Nat) : Bool := (table.find? n).isSome

theorem find?_eq_some {table : Table α} {n : Nat} {a : α} (h : table.find? n = some a) :
    ∃ span, (span, a) ∈ table ∧ span.contains n = true := by
  simp only [find?, Option.map_eq_some_iff, Prod.exists] at h
  obtain ⟨span, b, hfind, rfl⟩ := h
  exact ⟨span, List.mem_of_find?_eq_some hfind, by simpa using List.find?_some hfind⟩

end Table

end OAuth.Unicode
