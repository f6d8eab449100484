/-!
# Tables of code point ranges

A property of characters is given by a sorted table of closed code point ranges.

## What is here

* `inRanges table c` — the code point of `c` lies in one of the ranges.
* `inRanges_iff` — membership said without the table look-up.
-/

set_option autoImplicit false

namespace AssetPublish
namespace Text

/-- Whether the code point of `c` lies in one of the closed ranges of `table`. -/
def inRanges (table : Array (Nat × Nat)) (c : Char) : Bool :=
  table.any fun r => r.1 ≤ c.toNat && c.toNat ≤ r.2

theorem inRanges_iff {table : Array (Nat × Nat)} {c : Char} :
    inRanges table c = true ↔ ∃ r ∈ table, r.1 ≤ c.toNat ∧ c.toNat ≤ r.2 := by
  simp only [inRanges, Array.any_eq_true', Bool.and_eq_true, decide_eq_true_eq]

end Text
end AssetPublish
