/-
Characters that are the same but for case. A character stands with its lower case, with the lower-case
letters that share an upper case with that one, and with every capital of any of them. Over ASCII alone
a letter stands with its other case only.
-/

import Concord.Text.Case

namespace Concord.Text

/-! ### Lower case of one character -/

/-- The lower case as one character; the dotted capital I loses its dot. -/
def lowerAlone (c : Char) : Char :=
  if c.toNat < 128 then c.toLower
  else if c.toNat = 0x130 then 'i'
  else shifted lowerRuns c

/-- The other characters whose lower case is the given one. -/
def capitalsOf (c : Char) : List Char :=
  let ascii := if 'a' ≤ c ∧ c ≤ 'z' then [c.toUpper] else []
  let dotted := if c = 'i' then [Char.ofNat 0x130] else []
  let others := lowerRuns.filterMap fun run =>
    let code := ((c.toNat : Int) - run.shift).toNat
    if run.covers code then some (Char.ofNat code) else none
  ascii ++ dotted ++ others

/-! ### Lower-case letters with one upper case -/

/-- Lower-case letters that share an upper case, by code point. -/
def lowerFamilies : List (List Nat) := [
    [0x69, 0x131], [0x73, 0x17f], [0xb5, 0x3bc], [0x345, 0x3b9, 0x1fbe], [0x390, 0x1fd3],
    [0x3b0, 0x1fe3], [0x3b2, 0x3d0], [0x3b5, 0x3f5], [0x3b8, 0x3d1], [0x3ba, 0x3f0],
    [0x3c0, 0x3d6], [0x3c1, 0x3f1], [0x3c2, 0x3c3], [0x3c6, 0x3d5], [0x432, 0x1c80],
    [0x434, 0x1c81], [0x43e, 0x1c82], [0x441, 0x1c83], [0x442, 0x1c84, 0x1c85], [0x44a, 0x1c86],
    [0x463, 0x1c87], [0x1c88, 0xa64b], [0x1e61, 0x1e9b], [0xfb05, 0xfb06]]

/-- The lower-case letters that share an upper case with this one, itself among them. -/
def familyOf (c : Char) : List Char :=
  match lowerFamilies.find? (·.contains c.toNat) with
  | some family => family.map Char.ofNat
  | none => [c]

/-! ### Characters that agree -/

/-- The characters of all scripts that are the same as this one but for case. -/
def caseVariants (c : Char) : List Char :=
  (familyOf (lowerAlone c)).flatMap fun lower => lower :: capitalsOf lower

/-- The characters that are the same as this one but for the case of an ASCII letter. -/
def asciiCaseVariants (c : Char) : List Char :=
  [c.toLower, c.toUpper]

end Concord.Text
