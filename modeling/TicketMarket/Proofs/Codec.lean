import Mathlib
import TicketMarket.Value.Address
import TicketMarket.Value.Amount
import TicketMarket.Text.Integer

/-! # The text codecs read back what they write

Amounts travel as decimal text and accounts, fingerprints and hashes as `0x` and
lower-case hex; both readers work on the UTF-8 bytes of the text. Everything written is
ASCII, whose bytes are its character codes (`toUTF8_ascii`), so each reader meets the
characters its writer chose. The main statements: a number in decimal reads back within
any bound it respects (`Integer.read_toString`), hex reads back to its bytes
(`Hex.decode_encode`), a value of `width` bytes reads back from its text
(`HexValue.read_render`), and so do amounts, accounts, fingerprints and hashes. -/
set_option autoImplicit false
namespace TicketMarket

/-! ## ASCII text as bytes -/

theorem byteArray_toList_loop (bs : ByteArray) (i : Nat) (r : List UInt8) :
    ByteArray.toList.loop bs i r = r.reverse ++ bs.data.toList.drop i := by
  fun_induction ByteArray.toList.loop bs i r with
  | case1 i r lt ih =>
      have inside : i < bs.data.toList.length := by simpa using lt
      rw [ih, List.drop_eq_getElem_cons inside]
      simp [ByteArray.get!, lt]
  | case2 i r ge =>
      rw [List.drop_eq_nil_of_le (by simpa using ge), List.append_nil]

theorem byteArray_toList (bs : ByteArray) : bs.toList = bs.data.toList := by
  simp [ByteArray.toList, byteArray_toList_loop]

theorem utf8EncodeChar_ascii {c : Char} (ascii : c.toNat < 128) :
    String.utf8EncodeChar c = [UInt8.ofNat c.toNat] := by
  have small : c.val.toNat ≤ 127 := Nat.le_of_lt_succ ascii
  unfold String.utf8EncodeChar
  rw [if_pos small]
  rfl

/-- The UTF-8 bytes of ASCII text are its character codes. -/
theorem toUTF8_ascii {cs : List Char} (ascii : ∀ c ∈ cs, c.toNat < 128) :
    (String.ofList cs).toUTF8.toList.map UInt8.toNat = cs.map Char.toNat := by
  rw [String.toUTF8_eq_toByteArray, String.toByteArray_ofList, byteArray_toList,
    List.utf8Encode, List.toList_data_toByteArray]
  induction cs with
  | nil => rfl
  | cons c rest ih =>
      have head : c.toNat < 128 := ascii c List.mem_cons_self
      rw [List.flatMap_cons, utf8EncodeChar_ascii head, List.map_append,
        ih fun d mem => ascii d (List.mem_cons_of_mem c mem)]
      simp [Nat.mod_eq_of_lt (by omega : c.toNat < 256)]

/-! ## Any text as bytes

A reader that walks the bytes of arbitrary text meets an ASCII character as its own code
and any other character as bytes of `0x80` and above, none of which is an ASCII code. -/

/-- The UTF-8 bytes of one character, as numbers. -/
def charBytes (c : Char) : List Nat := (String.utf8EncodeChar c).map UInt8.toNat

theorem toUTF8_charBytes (s : String) :
    s.toUTF8.toList.map UInt8.toNat = s.toList.flatMap charBytes := by
  conv_lhs => rw [← String.ofList_toList (s := s)]
  rw [String.toUTF8_eq_toByteArray, String.toByteArray_ofList, byteArray_toList,
    List.utf8Encode, List.toList_data_toByteArray, List.map_flatMap]
  rfl

theorem charBytes_ascii {c : Char} (ascii : c.toNat < 128) : charBytes c = [c.toNat] := by
  rw [charBytes, utf8EncodeChar_ascii ascii]
  simp [Nat.mod_eq_of_lt (by omega : c.toNat < 256)]

theorem charBytes_high {c : Char} (high : 128 ≤ c.toNat) : ∀ b ∈ charBytes c, 128 ≤ b := by
  have big : ¬ c.val.toNat ≤ 127 := by
    change ¬ c.toNat ≤ 127
    omega
  simp only [charBytes, String.utf8EncodeChar, if_neg big]
  split <;> [skip; split] <;> simp <;> omega

theorem charBytes_ne_nil (c : Char) : charBytes c ≠ [] := by
  simp [charBytes, String.utf8EncodeChar_ne_nil]

/-- Bytes of text that start with an ASCII code start with the character of that code. -/
theorem flatMap_charBytes_eq_cons {cs : List Char} {n : Nat} {rest : List Nat}
    (bytes : cs.flatMap charBytes = n :: rest) (ascii : n < 128) :
    ∃ c more, cs = c :: more ∧ c.toNat = n ∧ rest = more.flatMap charBytes := by
  cases cs with
  | nil => cases bytes
  | cons c more =>
    rw [List.flatMap_cons] at bytes
    by_cases low : c.toNat < 128
    · rw [charBytes_ascii low, List.singleton_append, List.cons.injEq] at bytes
      exact ⟨c, more, rfl, bytes.1, bytes.2.symm⟩
    · -- the first byte of any other character is no ASCII code
      obtain ⟨b, bs, first⟩ := List.exists_cons_of_ne_nil (charBytes_ne_nil c)
      have high : 128 ≤ b := charBytes_high (by omega : 128 ≤ c.toNat) b
        (by rw [first]; exact List.mem_cons_self)
      rw [first, List.cons_append, List.cons.injEq] at bytes
      omega

/-! ## ASCII letters and digits -/

theorem isAsciiUpper_iff (c : Char) :
    ('A' ≤ c && c ≤ 'Z') = true ↔ 65 ≤ c.toNat ∧ c.toNat ≤ 90 := by
  simp only [Bool.and_eq_true, decide_eq_true_eq, Char.le_def, UInt32.le_iff_toNat_le]
  rfl

/-- `Char.toLower` moves `A` to `Z` down by thirty-two and leaves every other character. -/
theorem toLower_eq_ite (c : Char) :
    c.toLower = if 'A' ≤ c && c ≤ 'Z' then Char.ofNat (c.toNat + 32) else c := by
  unfold Char.toLower
  by_cases upper : 65 ≤ c.toNat ∧ c.toNat ≤ 90
  · rw [if_pos ((isAsciiUpper_iff c).mpr upper),
      dif_pos (by simpa [UInt32.le_iff_toNat_le] using upper)]
    apply Char.ext
    apply UInt32.toNat_inj.mp
    simp [Char.toNat_ofNat]
    rw [if_pos (by simp [Nat.isValidChar]; omega)]
    omega
  · rw [if_neg (mt (isAsciiUpper_iff c).mp upper),
      dif_neg (by simpa [UInt32.le_iff_toNat_le] using upper)]

theorem isHexDigit_iff (c : Char) : c.isHexDigit = true ↔
    (48 ≤ c.toNat ∧ c.toNat ≤ 57) ∨ (97 ≤ c.toNat ∧ c.toNat ≤ 102) ∨
      (65 ≤ c.toNat ∧ c.toNat ≤ 70) := by
  simp only [Char.isHexDigit, Char.isDigit, Bool.or_eq_true, Bool.and_eq_true, decide_eq_true_eq,
    UInt32.le_iff_toNat_le, ge_iff_le, or_assoc]
  rfl

theorem hexDigit_ascii {c : Char} (hex : c.isHexDigit = true) : c.toNat < 128 := by
  rcases (isHexDigit_iff c).mp hex with digit | lower | upper <;> omega

/-! ## Decimal numbers -/

namespace Integer

theorem digitIn_ten_of_isDigit {c : Char} (digit : c.isDigit = true) :
    digitIn 10 c.toNat = some (c.toNat - 48) := by
  have : 48 ≤ c.toNat ∧ c.toNat ≤ 57 := Char.isDigit_iff_toNat.mp digit
  simp only [digitIn, if_pos this]
  simp
  omega

theorem le_ofDigitChars (cs : List Char) (acc : Nat) : acc ≤ Nat.ofDigitChars 10 cs acc := by
  rw [Nat.ofDigitChars_eq_ofDigitChars_zero]
  have : 1 ≤ 10 ^ cs.length := Nat.one_le_pow _ _ (by decide)
  nlinarith

/-- Decimal digits are read to the number they spell, when that number is within the
bound: every prefix is then within it too. -/
theorem accumulate_digits (max : Nat) (cs : List Char) (acc : Nat)
    (digits : ∀ c ∈ cs, c.isDigit = true) (bounded : Nat.ofDigitChars 10 cs acc ≤ max) :
    accumulate 10 max acc (cs.map Char.toNat) = .ok (Nat.ofDigitChars 10 cs acc) := by
  induction cs generalizing acc with
  | nil => rfl
  | cons c rest ih =>
      have digit := digits c List.mem_cons_self
      rw [Nat.ofDigitChars_cons] at bounded ⊢
      have within := le_ofDigitChars rest (10 * acc + (c.toNat - '0'.toNat))
      simp only [List.map_cons, accumulate, digitIn_ten_of_isDigit digit]
      have next : acc * 10 + (c.toNat - 48) = 10 * acc + (c.toNat - '0'.toNat) := by
        simp
        ring
      rw [next, if_neg (by omega)]
      exact ih _ (fun d mem => digits d (List.mem_cons_of_mem c mem)) bounded

theorem digit_lt_128 {c : Char} (digit : c.isDigit = true) : c.toNat < 128 := by
  have : 48 ≤ c.toNat ∧ c.toNat ≤ 57 := Char.isDigit_iff_toNat.mp digit
  omega

/-- A number written in decimal reads back as itself, within any bound it respects. -/
theorem read_toString {max n : Nat} (bounded : n ≤ max) : read 10 max (toString n) = .ok n := by
  have digits : ∀ c ∈ Nat.toDigits 10 n, c.isDigit = true := fun c mem =>
    Nat.isDigit_of_mem_toDigits (by decide) (by decide) mem
  have bytes : (toString n).toUTF8.toList.map UInt8.toNat = (Nat.toDigits 10 n).map Char.toNat :=
    toUTF8_ascii fun c mem => digit_lt_128 (digits c mem)
  have spelled := accumulate_digits max (Nat.toDigits 10 n) 0 digits
    (by rw [Nat.ofDigitChars_ten_toDigits]; exact bounded)
  rw [Nat.ofDigitChars_ten_toDigits] at spelled
  obtain ⟨c, rest, split⟩ := List.exists_cons_of_ne_nil (Nat.toDigits_ne_nil (n := n) (b := 10))
  have first : 48 ≤ c.toNat ∧ c.toNat ≤ 57 :=
    Char.isDigit_iff_toNat.mp (digits c (by rw [split]; exact List.mem_cons_self))
  unfold read
  rw [bytes]
  rw [split] at spelled ⊢
  -- the first byte is a digit, so neither a sign nor the end of the text
  split
  · simp at *
  · rename_i h; simp at h; omega
  · rename_i h; simp at h; omega
  · rename_i h; simp at h; omega
  · exact spelled

end Integer

namespace Wei

theorem clamp_val_self (w : Wei) : clamp w.val = w := by
  unfold clamp
  rw [dif_pos w.lt]

/-- An amount reads back from its decimal text. -/
theorem parse_toString (w : Wei) : parse (toString w.val) = .ok w := by
  unfold parse Integer.readDecimal
  rw [Integer.read_toString (Nat.le_sub_one_of_lt w.lt)]
  exact congrArg Except.ok (clamp_val_self w)

/-- An amount is written in decimal: its text is all digits, and reads back as the amount. -/
theorem toString_decimal (w : Wei) :
    (∀ c ∈ (toString w.val).toList, c.isDigit = true) ∧
      Integer.readDecimal (weiLimit - 1) (toString w.val) = .ok w.val := by
  refine ⟨fun c mem => ?_, Integer.read_toString (Nat.le_sub_one_of_lt w.lt)⟩
  have digits : c ∈ Nat.toDigits 10 w.val := by
    rw [← Nat.toList_repr]
    exact mem
  exact Nat.isDigit_of_mem_toDigits (by decide) (by decide) digits

end Wei

/-! ## Hex -/

namespace Hex

theorem digitChar_toNat {n : Nat} (small : n < 16) :
    (digitChar n).toNat = if n < 10 then 48 + n else 87 + n := by
  unfold digitChar
  split
  · rw [Char.toNat_ofNat, if_pos (by simp [Nat.isValidChar]; omega)]
  · rw [Char.toNat_ofNat, if_pos (by simp [Nat.isValidChar]; omega)]

theorem digitValue?_digitChar {n : Nat} (small : n < 16) :
    digitValue? (digitChar n).toNat = some n := by
  rw [digitChar_toNat small, digitValue?]
  split <;> split <;> simp_all <;> omega

/-- A digit `encode` writes is `0` to `9` or a lower-case `a` to `f`. -/
theorem digitChar_lower {n : Nat} (small : n < 16) :
    (digitChar n).isDigit = true ∨ ('a' ≤ digitChar n ∧ digitChar n ≤ 'f') := by
  rw [Char.isDigit_iff_toNat]
  simp only [Char.le_def, UInt32.le_iff_toNat_le]
  change _ ∨ (97 ≤ (digitChar n).toNat ∧ (digitChar n).toNat ≤ 102)
  rw [digitChar_toNat small]
  split <;> simp <;> omega

/-- The characters `encode` writes for a list of bytes. -/
def digitsOf (bytes : List Nat) : List Char :=
  bytes.flatMap fun b => [digitChar (b / 16 % 16), digitChar (b % 16)]

theorem digitChar_ascii {n : Nat} (small : n < 16) : (digitChar n).toNat < 128 := by
  rw [digitChar_toNat small]
  split <;> omega

theorem mem_digitsOf {bytes : List Nat} {c : Char} (mem : c ∈ digitsOf bytes) :
    ∃ n < 16, c = digitChar n := by
  simp only [digitsOf, List.mem_flatMap, List.mem_cons, List.not_mem_nil, or_false] at mem
  obtain ⟨b, -, rfl | rfl⟩ := mem
  · exact ⟨_, Nat.mod_lt _ (by decide), rfl⟩
  · exact ⟨_, Nat.mod_lt _ (by decide), rfl⟩

/-- Hex is written in lower case: every character `encode` writes is a digit or one of
`a` to `f`. -/
theorem encode_lower (bytes : List Nat) :
    ∀ c ∈ (encode bytes).toList, c.isDigit = true ∨ ('a' ≤ c ∧ c ≤ 'f') := by
  intro c mem
  obtain ⟨n, small, rfl⟩ := mem_digitsOf (by simpa [encode, digitsOf] using mem)
  exact digitChar_lower small

theorem decodePairs_digitsOf (index : Nat) (bytes : List Nat) (isBytes : ∀ b ∈ bytes, b < 256) :
    decodePairs index ((digitsOf bytes).map Char.toNat) = .ok bytes := by
  induction bytes generalizing index with
  | nil => rfl
  | cons b rest ih =>
      simp only [digitsOf, List.flatMap_cons, List.cons_append, List.nil_append, List.map_cons]
      rw [decodePairs, digitValue?_digitChar (Nat.mod_lt _ (by decide)),
        digitValue?_digitChar (Nat.mod_lt _ (by decide))]
      simp only
      rw [show rest.flatMap (fun b => [digitChar (b / 16 % 16), digitChar (b % 16)]) =
          digitsOf rest from rfl,
        ih (index + 2) fun x mem => isBytes x (List.mem_cons_of_mem b mem)]
      have halves : b / 16 % 16 * 16 + b % 16 = b := by
        have := isBytes b List.mem_cons_self
        omega
      rw [halves]
      rfl

theorem length_digitsOf (bytes : List Nat) : (digitsOf bytes).length = 2 * bytes.length := by
  induction bytes with
  | nil => rfl
  | cons b rest ih =>
      simp only [digitsOf, List.flatMap_cons, List.length_append] at ih ⊢
      simp [ih]
      ring

/-- Reading what `encode` wrote after the marker gives the bytes back. -/
theorem decode_encode (bytes : List Nat) (isBytes : ∀ b ∈ bytes, b < 256) :
    decode ("0x" ++ encode bytes) = .ok bytes := by
  have ascii : ∀ c ∈ ['0', 'x'] ++ digitsOf bytes, c.toNat < 128 := by
    intro c mem
    simp only [List.mem_append, List.mem_cons, List.not_mem_nil, or_false] at mem
    rcases mem with (rfl | rfl) | mem
    · decide
    · decide
    · obtain ⟨n, small, rfl⟩ := mem_digitsOf mem
      exact digitChar_ascii small
  have text : "0x" ++ encode bytes = String.ofList (['0', 'x'] ++ digitsOf bytes) := by
    rw [String.ofList_append]
    rfl
  unfold decode
  rw [text, toUTF8_ascii ascii]
  simp only [List.map_cons, List.cons_append, List.nil_append]
  rw [show ('0'.toNat :: 'x'.toNat :: (digitsOf bytes).map Char.toNat) =
    48 :: 120 :: (digitsOf bytes).map Char.toNat from rfl]
  simp only [stripMarker, List.length_map, length_digitsOf]
  rw [if_neg (by simp), decodePairs_digitsOf 0 bytes isBytes]

/-! ### Numbers as bytes -/

theorem foldl_value (init : Nat) (bytes : List Nat) :
    bytes.foldl (fun acc b => acc * 256 + b) init = init * 256 ^ bytes.length + valueOf bytes := by
  induction bytes generalizing init with
  | nil => simp [valueOf]
  | cons b rest ih =>
      simp only [valueOf, List.foldl_cons, List.length_cons] at ih ⊢
      rw [ih, ih (0 * 256 + b)]
      ring

theorem bytesOf_succ (w v : Nat) : bytesOf (w + 1) v = v / 256 ^ w % 256 :: bytesOf w v := by
  simp [bytesOf, List.range_succ, Nat.pow_eq]

theorem length_bytesOf (w v : Nat) : (bytesOf w v).length = w := by
  simp [bytesOf]

theorem bytesOf_lt (w v : Nat) : ∀ b ∈ bytesOf w v, b < 256 := by
  intro b mem
  simp only [bytesOf, List.mem_map] at mem
  obtain ⟨i, -, rfl⟩ := mem
  exact Nat.mod_lt _ (by decide)

/-- The bytes of a number spell the number, less what does not fit in them. -/
theorem valueOf_bytesOf (w v : Nat) : valueOf (bytesOf w v) = v % 256 ^ w := by
  induction w with
  | zero => simp [bytesOf, valueOf, Nat.mod_one]
  | succ w ih =>
      rw [bytesOf_succ, valueOf, List.foldl_cons, foldl_value, length_bytesOf, ih,
        Nat.mod_pow_succ]
      ring

end Hex

namespace HexValue

/-- A value of `width` bytes reads back from its text. -/
theorem read_render {width value : Nat} (fits : value < 256 ^ width) :
    read width (render width value) = .ok value := by
  unfold read render
  rw [Hex.decode_encode _ (Hex.bytesOf_lt width value)]
  simp only [Hex.length_bytesOf, beq_self_eq_true, if_true, Hex.valueOf_bytesOf,
    Nat.mod_eq_of_lt fits]

/-- A value of `width` bytes is written as `0x` and two lower-case hex digits a byte. -/
theorem render_lower (width value : Nat) :
    ∃ hex : String, render width value = "0x" ++ hex ∧ hex.length = 2 * width ∧
      ∀ c ∈ hex.toList, c.isDigit = true ∨ ('a' ≤ c ∧ c ≤ 'f') := by
  refine ⟨Hex.encode (Hex.bytesOf width value), rfl, ?_, Hex.encode_lower _⟩
  rw [show Hex.encode (Hex.bytesOf width value) = String.ofList (Hex.digitsOf (Hex.bytesOf width value))
    from rfl, String.length_ofList, Hex.length_digitsOf, Hex.length_bytesOf]

end HexValue

theorem Address.parse_render {a : Address} (fits : a.val < 256 ^ 20) :
    Address.parse a.render = .ok a := by
  unfold Address.parse Address.render
  rw [HexValue.read_render fits]
  rfl

theorem Fingerprint.parse_render {f : Fingerprint} (fits : f.val < 256 ^ 32) :
    Fingerprint.parse f.render = .ok f := by
  unfold Fingerprint.parse Fingerprint.render
  rw [HexValue.read_render fits]
  rfl

theorem TxHash.parse_render {h : TxHash} (fits : h.val < 256 ^ 32) :
    TxHash.parse h.render = .ok h := by
  unfold TxHash.parse TxHash.render
  rw [HexValue.read_render fits]
  rfl

end TicketMarket
