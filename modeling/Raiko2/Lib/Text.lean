import Raiko2.Lib.Framed

/-!
# Text

White space, escapes and hexadecimal digits of texts. Which characters beyond ASCII are shown as they are is data of
Unicode and stays a parameter.
-/

namespace Raiko2.Lib

section Blank

/-- The characters with the property `White_Space`. -/
def isWhiteSpace (c : Char) : Bool :=
  (0x9 ≤ c.toNat && c.toNat ≤ 0xD) || (0x2000 ≤ c.toNat && c.toNat ≤ 0x200A) ||
    [0x20, 0x85, 0xA0, 0x1680, 0x2028, 0x2029, 0x202F, 0x205F, 0x3000].contains c.toNat

def trim (text : String) : String :=
  String.ofList ((text.toList.dropWhile isWhiteSpace).reverse.dropWhile isWhiteSpace).reverse

/-- What `trim` leaves of the text is empty. -/
def isBlank (text : String) : Bool := text.toList.all isWhiteSpace

end Blank

section Escapes

variable (printable : Char → Bool)

def isShown (c : Char) : Bool := if c.toNat < 0x80 then 0x20 ≤ c.toNat && c.toNat < 0x7F else printable c

/-- A character between quotes of one kind. -/
def escaped (quote c : Char) : List Char :=
  if c.toNat = 0 then ['\\', '0']
  else if c = '\t' then ['\\', 't']
  else if c = '\r' then ['\\', 'r']
  else if c = '\n' then ['\\', 'n']
  else if c = quote ∨ c = '\\' then ['\\', c]
  else if isShown printable c then [c]
  else ['\\', 'u', '\x7b'] ++ Nat.toDigits 16 c.toNat ++ ['\x7d']

def quoted (quote : Char) (chars : List Char) : String :=
  String.ofList (quote :: chars.flatMap (escaped printable quote) ++ [quote])

end Escapes

section Hex

/-- The digit of a value below 16, with the letters that start at the given code. -/
def hexDigit (letter value : Nat) : Char := Char.ofNat (if value < 10 then 48 + value else letter + value - 10)

def upperLetter : Nat := 65

def lowerLetter : Nat := 97

def hexPair (letter : Nat) (byte : UInt8) : List Char :=
  [hexDigit letter (byte.toNat / 16), hexDigit letter (byte.toNat % 16)]

def hexEncode (bytes : List UInt8) : String := String.ofList (bytes.flatMap (hexPair lowerLetter))

/-- A text without the markers `0x` that it starts with. -/
def withoutMarkers (text : String) : String := String.ofList (go text.toList)
where
  go : List Char → List Char
    | '0' :: 'x' :: rest => go rest
    | chars => chars

def hexValue (printable : Char → Bool) (index : Nat) (digit : UInt8) : Except String Nat :=
  if 48 ≤ digit ∧ digit ≤ 57 then .ok (digit.toNat - 48)
  else if 65 ≤ digit ∧ digit ≤ 70 then .ok (digit.toNat - 55)
  else if 97 ≤ digit ∧ digit ≤ 102 then .ok (digit.toNat - 87)
  else
    let shown := quoted printable '\x27' [Char.ofNat digit.toNat]
    .error s!"Invalid character {shown} at position {index}"

def hexBytes (printable : Char → Bool) : Nat → List UInt8 → Except String (List UInt8)
  | index, high :: low :: rest => do
    let high ← hexValue printable index high
    let low ← hexValue printable (index + 1) low
    let bytes ← hexBytes printable (index + 2) rest
    return UInt8.ofNat (high * 16 + low) :: bytes
  | _, _ => .ok []

def hexDecode (printable : Char → Bool) (text : String) : Except String (List UInt8) :=
  let digits := text.toByteArray.data.toList
  if digits.length % 2 = 0 then hexBytes printable 0 digits else .error "Odd number of digits"

structure IsLetter (letter : Nat) : Prop where
  digit_injective : ∀ m < 16, ∀ n < 16, hexDigit letter m = hexDigit letter n → m = n
  ne_slash : ∀ n < 16, '/' ≠ hexDigit letter n

theorem isLetter_upper : IsLetter upperLetter := ⟨by decide, by decide⟩

theorem isLetter_lower : IsLetter lowerLetter := ⟨by decide, by decide⟩

variable {letter : Nat}

theorem IsLetter.append_inj (hLetter : IsLetter letter) {a b : UInt8} {x y : List Char}
    (h : hexPair letter a ++ x = hexPair letter b ++ y) : a = b ∧ x = y := by
  injection h with hHigh h
  injection h with hLow hRest
  have ha := a.toNat_lt
  have hb := b.toNat_lt
  have hHigh' := hLetter.digit_injective _ (by omega) _ (by omega) hHigh
  have hLow' := hLetter.digit_injective _ (by omega) _ (by omega) hLow
  exact ⟨UInt8.toNat_inj.mp (by omega), hRest⟩

theorem IsLetter.slash_not_mem (hLetter : IsLetter letter) (byte : UInt8) : '/' ∉ hexPair letter byte := by
  have hLt := byte.toNat_lt
  simp only [hexPair, List.mem_cons, List.not_mem_nil, or_false, not_or]
  exact ⟨hLetter.ne_slash _ (by omega), hLetter.ne_slash _ (by omega)⟩

theorem hexEncode_injective {a b : List UInt8} (h : hexEncode a = hexEncode b) : a = b :=
  flatMap_injective_of_append_inj (fun _ => List.cons_ne_nil _ _) (fun _ _ _ _ => isLetter_lower.append_inj)
    (String.ofList_injective h)

theorem slash_not_mem_hexEncode (bytes : List UInt8) : '/' ∉ (hexEncode bytes).toList := by
  rw [hexEncode, String.toList_ofList, List.mem_flatMap]
  rintro ⟨byte, -, hMem⟩
  exact isLetter_lower.slash_not_mem byte hMem

end Hex

end Raiko2.Lib
