import AssetPublish.Exclusion.Basic

/-!
# Hashes of rules

Rules for names that are equal have the same hash, so that they can be kept in hashed collections.
It is made from the hashes of the names, in a way that does not depend on the order in which a
hashed set stores them.

## What is here

* `scattered`, `setHash` — the hash of a set from the hashes of its members in some order.
* `Exclusion.hash?` — the hash of a rule.
-/

set_option autoImplicit false

namespace AssetPublish

/-- The hash of a member of a set with its bits spread over the word. -/
def scattered (hash : UInt64) : UInt64 :=
  ((hash ^^^ 89869747) ^^^ (hash <<< (16 : UInt64))) * 3644798167

/-- The bits of a word mixed with each other. -/
def dispersed (word : UInt64) : UInt64 :=
  (word ^^^ ((word >>> (11 : UInt64)) ^^^ (word >>> (25 : UInt64)))) * 69069 + 907133923

/-- The hash of a set from the hashes of its members, in the order in which they are stored.  The
greatest word is not used as a hash. -/
def setHash (hashes : List UInt64) : UInt64 :=
  let members := hashes.foldl (fun word hash => word ^^^ scattered hash) 0
  let hash := dispersed (members ^^^ ((UInt64.ofNat hashes.length + 1) * 1927868237))
  if hash = 0xFFFFFFFFFFFFFFFF then 590923713 else hash

namespace Exclusion

/-- The hash of a rule, where `hashOf` gives the hashes of texts.  Rules for names have one that
depends on the set of names; other rules that were built apart are told apart, and what they hold
gives no hash. -/
def hash? (hashOf : String → UInt64) : Exclusion → Option UInt64
  | names set => some (setHash (set.names.map hashOf))
  | _ => none

end Exclusion
end AssetPublish
