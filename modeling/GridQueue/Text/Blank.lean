/-
# `GridQueue.Text.Blank` — white space

The characters that count as white space, and trimming.  The class is
the Unicode property `White_Space`, so a no-break space or an ideographic
space separates names as an ordinary space does.  Lists that stand in one
text are read item by item.
-/

namespace GridQueue.Text

/-- The code points with the property `White_Space`, as closed ranges in
ascending order. -/
def blankRanges : List (Nat × Nat) :=
  [(0x09, 0x0d), (0x20, 0x20), (0x85, 0x85), (0xa0, 0xa0),
   (0x1680, 0x1680), (0x2000, 0x200a), (0x2028, 0x2029),
   (0x202f, 0x202f), (0x205f, 0x205f), (0x3000, 0x3000)]

/-- White space. -/
def isBlank (c : Char) : Bool :=
  blankRanges.any fun (lo, hi) => decide (lo ≤ c.toNat) && decide (c.toNat ≤ hi)

/-- The characters without the white space at either end. -/
def trimChars (cs : List Char) : List Char :=
  ((cs.dropWhile isBlank).reverse.dropWhile isBlank).reverse

/-- The text without the white space at either end. -/
def trim (s : String) : String :=
  String.ofList (trimChars s.toList)

/-- A text of white space only, the empty text included. -/
def isBlankText (s : String) : Bool :=
  s.toList.all isBlank

/-- The items of a list as people write it: what stands between the
separators, without the white space around it.  Empty items are dropped. -/
def items (isSeparator : Char → Bool) (s : String) : List String :=
  (s.toList.splitOnP isSeparator).map trimChars
    |>.filter (· ≠ []) |>.map String.ofList

end GridQueue.Text
