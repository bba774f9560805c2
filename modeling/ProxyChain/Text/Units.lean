/-!
# ProxyChain.Text.Units

**UTF-16 code units**: the sequence of 16-bit words that a text is in that encoding. A character
beyond the basic plane is a pair of surrogates.
-/

namespace ProxyChain.Text

/-- The code units of one character. -/
def charUnits (c : Char) : List UInt16 :=
  let n := c.toNat
  if n < 0x10000 then [n.toUInt16]
  else
    let m := n - 0x10000
    [(0xD800 + m / 0x400).toUInt16, (0xDC00 + m % 0x400).toUInt16]

/-- The code units of a text. -/
def units (s : String) : List UInt16 :=
  s.toList.flatMap charUnits

end ProxyChain.Text
