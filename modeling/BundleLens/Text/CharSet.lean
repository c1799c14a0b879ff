namespace BundleLens.Text

/-- A set of characters, as inclusive ranges of code points. -/
abbrev CharSet := List (Nat × Nat)

def CharSet.contains (set : CharSet) (c : Char) : Bool :=
  set.any fun range => range.1 ≤ c.toNat && c.toNat ≤ range.2

end BundleLens.Text
