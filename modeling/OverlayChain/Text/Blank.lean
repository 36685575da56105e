/-!
# White space

## Main definitions

- `Text.isWhite`: the characters that Unicode counts as white space.
-/

namespace OverlayChain.Text

/-- The characters that Unicode counts as white space. -/
def isWhite (c : Char) : Bool :=
  let code := c.toNat
  (9 ≤ code && code ≤ 13) || (0x2000 ≤ code && code ≤ 0x200a) ||
    [0x20, 0x85, 0xa0, 0x1680, 0x2028, 0x2029, 0x202f, 0x205f, 0x3000].contains code

end OverlayChain.Text
