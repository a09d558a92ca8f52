/-
**The double nearest to a decimal.**

The doubles that are not negative are in the order of their bits, and so are the midpoints between them. The
nearest one to a decimal is the last one whose midpoint to the neighbour below the decimal reaches. It is
found bit by bit (`searchBits`); all comparisons are exact.
-/

import PromptChain.Decimal.Shortest

namespace PromptChain.Decimal

/-- Whether a decimal is above the midpoint below a number. The midpoint itself counts when the mantissa is
even. -/
def reaches (decimal : Scientific) (bits : Nat) : Bool :=
  let value := Binary.ofBits bits
  let below := compareScaled decimal.digits decimal.exponent value.low (value.exponent - 2)
  if value.mantissa % 2 = 0 then below != .lt else below == .gt

/-- The last bits that a decimal reaches, of those that agree with `bits` but for the last `width`. -/
def searchBits (decimal : Scientific) (bits : Nat) : Nat → Nat
  | 0 => bits
  | width + 1 =>
    let half := bits + Nat.pow 2 width
    searchBits decimal (if reaches decimal half then half else bits) width

/-- The bits of the double nearest to a decimal. Beyond 400 places on either side of the point the answer is
zero or infinite. -/
def nearestBits (decimal : Scientific) : Nat :=
  let places : Int := (Nat.toDigits 10 decimal.digits).length + decimal.exponent
  if decimal.digits = 0 || places < -400 then 0
  else if 400 < places then infiniteBits
  else min infiniteBits (searchBits decimal 0 63)

def nearest (negative : Bool) (decimal : Scientific) : Float :=
  .ofBits (.ofNat ((if negative then Nat.pow 2 63 else 0) + nearestBits decimal))

end PromptChain.Decimal
