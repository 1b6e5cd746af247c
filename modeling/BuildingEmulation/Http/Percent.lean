/-!
# Percent encoding

Bytes of a text written as a percent sign and two hexadecimal digits. A percent sign that stands in
front of anything else is left as it is.
-/
namespace BuildingEmulation.Http

/-- The value of the character of a hexadecimal digit. -/
def hexDigit? (b : UInt8) : Option UInt8 :=
  if 48 ≤ b && b ≤ 57 then some (b - 48)
  else if 65 ≤ b && b ≤ 70 then some (b - 55)
  else if 97 ≤ b && b ≤ 102 then some (b - 87)
  else none

/-- The percent sign. -/
def percentSign : UInt8 := 37

def decodeBytes : List UInt8 → List UInt8
  | [] => []
  | b :: x :: y :: rest =>
    if b = percentSign then
      match hexDigit? x, hexDigit? y with
      | some x, some y => (x * 16 + y) :: decodeBytes rest
      | _, _ => b :: decodeBytes (x :: y :: rest)
    else b :: decodeBytes (x :: y :: rest)
  | b :: rest => b :: decodeBytes rest

/-- The decoded text, if its bytes are the UTF-8 form of one. -/
def percentDecode? (s : String) : Option String :=
  String.fromUTF8? ⟨(decodeBytes s.toUTF8.toList).toArray⟩

end BuildingEmulation.Http
