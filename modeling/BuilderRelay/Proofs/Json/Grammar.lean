import BuilderRelay.Hex
import BuilderRelay.Json.Skip

/-!
# The ways to write JSON

The texts of JSON as a grammar. Space may stand between any two words, and the characters of a string
may be written with whatever escapes there are for them. Of a value that nobody asks for only the
form counts, so its strings may hold escapes that denote no character. The members of an object are
kept apart from how they are laid out.
-/

namespace BuilderRelay.Json

def IsSpace (w : Bytes) : Prop := ∀ b ∈ w, isBlank b

/-! ## Strings -/

def IsHexDigit (n : Nat) (b : UInt8) : Prop :=
  n < 16 ∧ (b = UInt8.ofNat (Hex.digit n).toNat ∨ b = UInt8.ofNat (Hex.digit n).toUpper.toNat)

theorem hexValue_of_isHexDigit {n : Nat} {b : UInt8} (h : IsHexDigit n b) : hexValue b = some n := by
  have hcase : ∀ n < 16, hexValue (UInt8.ofNat (Hex.digit n).toNat) = some n ∧
      hexValue (UInt8.ofNat (Hex.digit n).toUpper.toNat) = some n := by decide
  obtain ⟨hlower, hupper⟩ := hcase n h.1
  rcases h.2 with rfl | rfl
  · exact hlower
  · exact hupper

/-- The escape of a number of four hexadecimal digits. -/
inductive UnitText : Nat → Bytes → Prop
  | mk {n : Nat} {a b c d : UInt8} : IsHexDigit (n / 4096) a → IsHexDigit (n / 256 % 16) b →
      IsHexDigit (n / 16 % 16) c → IsHexDigit (n % 16) d → UnitText n [0x5c, 0x75, a, b, c, d]

theorem UnitText.exists_digits {n : Nat} {u : Bytes} (h : UnitText n u) :
    ∃ a b c d, u = [0x5c, 0x75, a, b, c, d] ∧ hexNumber a b c d = some n := by
  obtain ⟨ha, hb, hc, hd⟩ := h
  rename_i a b c d
  refine ⟨a, b, c, d, rfl, ?_⟩
  have hvalue : ((n / 4096 * 16 + n / 256 % 16) * 16 + n / 16 % 16) * 16 + n % 16 = n := by omega
  simp only [hexNumber, hexValue_of_isHexDigit ha, hexValue_of_isHexDigit hb,
    hexValue_of_isHexDigit hc, hexValue_of_isHexDigit hd, bind, Option.bind, pure, hvalue]

/-- The characters that have escapes of one letter, with their letters. -/
def letterEscapes : List (Char × UInt8) :=
  [('"', 0x22), ('\\', 0x5c), ('/', 0x2f), ('\x08', 0x62), ('\x0c', 0x66), ('\n', 0x6e),
    ('\r', 0x72), ('\t', 0x74)]

theorem escapedByte_of_mem {c : Char} {e : UInt8} (h : (c, e) ∈ letterEscapes) :
    escapedByte e = some (UInt8.ofNat c.toNat) ∧ e ≠ 0x75 ∧ c.toNat < 128 := by
  simp only [letterEscapes, List.mem_cons, Prod.mk.injEq, List.not_mem_nil, or_false] at h
  rcases h with ⟨rfl, rfl⟩ | ⟨rfl, rfl⟩ | ⟨rfl, rfl⟩ | ⟨rfl, rfl⟩ | ⟨rfl, rfl⟩ | ⟨rfl, rfl⟩ |
    ⟨rfl, rfl⟩ | ⟨rfl, rfl⟩ <;> decide

/-- The ways to write a character in a string: as itself, by a letter, or by its number, for which
characters beyond the first 2¹⁶ take two escapes. -/
inductive CharText : Char → Bytes → Prop
  | itself {c : Char} : c ≠ '"' → c ≠ '\\' → 0x20 ≤ c.toNat → CharText c (String.utf8EncodeChar c)
  | letter {c : Char} {e : UInt8} : (c, e) ∈ letterEscapes → CharText c [0x5c, e]
  | number {c : Char} {t : Bytes} : UnitText c.toNat t → CharText c t
  | pair {c : Char} {t t' : Bytes} : 0x10000 ≤ c.toNat →
      UnitText (0xd800 + (c.toNat - 0x10000) / 0x400) t →
      UnitText (0xdc00 + (c.toNat - 0x10000) % 0x400) t' → CharText c (t ++ t')

inductive CharsText : List Char → Bytes → Prop
  | nil : CharsText [] []
  | cons {c : Char} {cs : List Char} {t ts : Bytes} :
      CharText c t → CharsText cs ts → CharsText (c :: cs) (t ++ ts)

inductive StringText : String → Bytes → Prop
  | mk {s : String} {body : Bytes} : CharsText s.toList body →
      StringText s (0x22 :: (body ++ [0x22]))

/-- The bytes that stand for themselves. -/
def isPlain (b : UInt8) : Bool := b ≠ 0x22 ∧ b ≠ 0x5c ∧ ¬ b < 0x20

/-- What may stand between the quotes of a string that nobody reads. -/
inductive IsStringBody : Bytes → Prop
  | nil : IsStringBody []
  | plain {b : UInt8} {t : Bytes} : isPlain b → IsStringBody t → IsStringBody (b :: t)
  | letter {c : Char} {e : UInt8} {t : Bytes} :
      (c, e) ∈ letterEscapes → IsStringBody t → IsStringBody (0x5c :: e :: t)
  | number {n : Nat} {u t : Bytes} : UnitText n u → IsStringBody t → IsStringBody (u ++ t)

inductive HexDigits : Bytes → Bytes → Prop
  | nil : HexDigits [] []
  | cons {b h l : UInt8} {bytes ds : Bytes} : IsHexDigit (b.toNat / 16) h →
      IsHexDigit (b.toNat % 16) l → HexDigits bytes ds → HexDigits (b :: bytes) (h :: l :: ds)

/-- Bytes as hexadecimal digits, with or without a prefix. -/
inductive HexText : Bytes → Bytes → Prop
  | mk {pre bytes ds : Bytes} : pre ∈ [[], [0x30, 0x78], [0x30, 0x58]] → HexDigits bytes ds →
      HexText bytes (pre ++ ds)

/-! ## Numbers -/

def IsDigits (t : Bytes) : Prop := t ≠ [] ∧ ∀ b ∈ t, isDigit b

/-- Digits that start with zero only if that is all. -/
def IsWhole (t : Bytes) : Prop := IsDigits t ∧ (t.head? = some 0x30 → t = [0x30])

inductive IsFraction : Bytes → Prop
  | none : IsFraction []
  | digits {t : Bytes} : IsDigits t → IsFraction (0x2e :: t)

inductive IsExponent : Bytes → Prop
  | none : IsExponent []
  | digits {e : UInt8} {sign t : Bytes} : isExponentLetter e → sign ∈ [[], [0x2b], [0x2d]] →
      IsDigits t → IsExponent (e :: (sign ++ t))

inductive IsNumber : Bytes → Prop
  | mk {sign whole fraction exponent : Bytes} : sign ∈ [[], [0x2d]] → IsWhole whole →
      IsFraction fraction → IsExponent exponent →
      IsNumber (sign ++ (whole ++ (fraction ++ exponent)))

/-! ## Values -/

inductive IsScalar : Bytes → Prop
  | null : IsScalar (0x6e :: afterN)
  | true : IsScalar (0x74 :: afterT)
  | false : IsScalar (0x66 :: afterF)
  | number {t : Bytes} : IsNumber t → IsScalar t
  | string {t : Bytes} : IsStringBody t → IsScalar (0x22 :: (t ++ [0x22]))

def Bracket.opening : Bracket → UInt8
  | square => 0x5b
  | curly => 0x7b

/-- What stands before a value between brackets: space, and in an object a name and a colon. -/
inductive IsLead : Bracket → Bytes → Prop
  | square {w : Bytes} : IsSpace w → IsLead .square w
  | curly {w w' w'' name : Bytes} : IsSpace w → IsStringBody name → IsSpace w' → IsSpace w'' →
      IsLead .curly (w ++ 0x22 :: (name ++ 0x22 :: (w' ++ 0x3a :: w'')))

/-- The parts of JSON: values, and what stands between brackets that are not empty. -/
inductive Part where
  | value
  | inside (bracket : Bracket)

inductive IsPart : Part → Bytes → Prop
  | scalar {t : Bytes} : IsScalar t → IsPart .value t
  | empty (bracket : Bracket) {w : Bytes} : IsSpace w →
      IsPart .value (bracket.opening :: (w ++ [bracket.closing]))
  | brackets {bracket : Bracket} {t : Bytes} : IsPart (.inside bracket) t →
      IsPart .value (bracket.opening :: (t ++ [bracket.closing]))
  | last {bracket : Bracket} {lead t w : Bytes} : IsLead bracket lead → IsPart .value t →
      IsSpace w → IsPart (.inside bracket) (lead ++ (t ++ w))
  | more {bracket : Bracket} {lead t w ts : Bytes} : IsLead bracket lead → IsPart .value t →
      IsSpace w → IsPart (.inside bracket) ts →
      IsPart (.inside bracket) (lead ++ (t ++ (w ++ 0x2c :: ts)))

abbrev IsValue : Bytes → Prop := IsPart .value

/-! ## Objects -/

abbrev Member := String × Bytes

inductive MemberText : Member → Bytes → Prop
  | mk {name : String} {n value w₁ w₂ w₃ w₄ : Bytes} : StringText name n → IsSpace w₁ →
      IsSpace w₂ → IsSpace w₃ → IsSpace w₄ →
      MemberText (name, value) (w₁ ++ (n ++ (w₂ ++ 0x3a :: (w₃ ++ (value ++ w₄)))))

inductive MembersText : List Member → Bytes → Prop
  | last {m : Member} {t : Bytes} : MemberText m t → MembersText [m] t
  | more {m : Member} {ms : List Member} {t ts : Bytes} : MemberText m t → MembersText ms ts →
      MembersText (m :: ms) (t ++ 0x2c :: ts)

/-- An object with the given members, in that order. -/
inductive ObjectText : List Member → Bytes → Prop
  | empty {w : Bytes} : IsSpace w → ObjectText [] (0x7b :: (w ++ [0x7d]))
  | members {ms : List Member} {t : Bytes} : MembersText ms t → ObjectText ms (0x7b :: (t ++ [0x7d]))

end BuilderRelay.Json
