import ProxyChain.Text.Digits

/-!
# ProxyChain.Net.Percent

**Percent encoding**: octets as a percent sign and two hexadecimal digits. Which characters have
to be written so depends on the part of an address; those outside of ASCII always have to.
-/

namespace ProxyChain.Net.Percent

/-- An octet in percent encoding. -/
def encodeOctet (octet : UInt8) : List Char :=
  '%' :: (Text.hexDigits 2 octet.toNat).map Char.toUpper

/-- A text in which the characters that satisfy a condition are encoded. -/
def encode (isUnsafe : Char → Bool) (text : String) : String :=
  String.ofList <| text.toList.flatMap fun c =>
    if isUnsafe c || 0x7F < c.toNat then
      (String.singleton c).toUTF8.toList.flatMap encodeOctet
    else [c]

/-- The octets of a text in which percent signs with two digits stand for octets. -/
def decodeOctets : List Char → List UInt8
  | [] => []
  | '%' :: a :: b :: rest =>
    match Text.readDigits? 16 [a, b] with
    | some n => n.toUInt8 :: decodeOctets rest
    | none => 37 :: decodeOctets (a :: b :: rest)
  | c :: rest => (String.singleton c).toUTF8.toList ++ decodeOctets rest

/-- The text that a percent-encoded one stands for, if its octets are one. -/
def decode? (text : String) : Option String :=
  String.fromUTF8? ⟨(decodeOctets text.toList).toArray⟩

/-! ### Sets of characters -/

/-- Controls, which are encoded everywhere. -/
def isControl (c : Char) : Bool :=
  c < ' ' || c == '\x7f'

/-- What is encoded behind the number sign. -/
def inFragment (c : Char) : Bool :=
  isControl c || " \"<>\x60".toList.contains c

/-- What is encoded in a query. -/
def inQuery (isSpecial : Bool) (c : Char) : Bool :=
  isControl c || " \"#<>".toList.contains c || (isSpecial && c == '\'')

/-- What is encoded in a path. -/
def inPath (c : Char) : Bool :=
  inFragment c || "#?\x7b\x7d".toList.contains c

/-- What is encoded in the name and the password of a user. -/
def inUserInfo (c : Char) : Bool :=
  inPath c || "/:;=@[\\]^|".toList.contains c

end ProxyChain.Net.Percent
