namespace SchemaScript.Text

/-!
# Tables of code points

A property of characters is stored as the ascending list of the code points
at which membership switches.  Looking a code point up walks the list no
further than the first switch above it, so common characters are found at
once.
-/

/--
Whether `code` has the property that `inside` tells of the code points before
the first switch of `switches`, which are listed in ascending order.
-/
def insideRuns (inside : Bool) : List Nat → Nat → Bool
  | [], _ => inside
  | switch :: later, code =>
      if code < switch then
        inside
      else
        insideRuns (!inside) later code

/-- Code points `first, first + stride, …, last`. -/
structure Stretch where
  first : Nat
  last : Nat
  stride : Nat

namespace Stretch

/-- Whether a code point is one of the stretch. -/
def contains (stretch : Stretch) (code : Nat) : Bool :=
  stretch.first ≤ code && code ≤ stretch.last &&
    (code - stretch.first) % stretch.stride == 0

end Stretch

end SchemaScript.Text
