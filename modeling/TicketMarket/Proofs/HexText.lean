import Mathlib
import TicketMarket.Proofs.Codec
import TicketMarket.Proofs.WireFields
import TicketMarket.Json.Read
import TicketMarket.Json.Write

/-! # Hex text reads exactly the values it writes

Accounts, fingerprints and transaction hashes are written as `0x` and two lower-case hex
digits a byte. The reader is more lenient: it drops one leading `0x`, or else one leading
`0X`, and accepts digits of either case. It walks the UTF-8 bytes of the text, so the
statements here first carry it over to characters: dropping the marker commutes with
encoding (`stripMarker_charBytes`), and a character that is no ASCII hex digit brings only
bytes that are none either (`charBytes_digits_iff`).

The main statements are about every text: `HexValue.read_ok_iff` says which texts read as a
value and which value, `read_invalidHex` and `read_invalidLength` how the others are
refused. `HexCodec` gathers what a value type's reader and writer promise, and
`hex_values_decode_exactly` gives it for the three value types together with the round
trip through JSON text. -/
set_option autoImplicit false
namespace TicketMarket
namespace Hex

/-! ## The marker -/

/-- The characters after one leading `0x`, or else one leading `0X`. -/
def afterMarker : List Char → List Char
  | '0' :: 'x' :: rest => rest
  | '0' :: 'X' :: rest => rest
  | cs => cs

theorem flatMap_charBytes_eq_zero_cons {cs : List Char} {m : Nat} {rest : List Nat}
    (bytes : cs.flatMap charBytes = 48 :: m :: rest) (ascii : m < 128) :
    ∃ d more, cs = '0' :: d :: more ∧ d.toNat = m ∧ rest = more.flatMap charBytes := by
  obtain ⟨c, tail, rfl, zero, bytesTail⟩ := flatMap_charBytes_eq_cons bytes (by decide)
  obtain ⟨d, more, rfl, code, rfl⟩ := flatMap_charBytes_eq_cons bytesTail.symm ascii
  obtain rfl : c = '0' := Char.toNat_inj.mp zero
  exact ⟨d, more, rfl, code, rfl⟩

/-- Dropping the marker from the bytes drops it from the characters. -/
theorem stripMarker_charBytes (cs : List Char) :
    stripMarker (cs.flatMap charBytes) = (afterMarker cs).flatMap charBytes := by
  unfold stripMarker
  split
  · rename_i rest bytes
    obtain ⟨d, more, rfl, x, rfl⟩ := flatMap_charBytes_eq_zero_cons bytes (by decide)
    obtain rfl : d = 'x' := Char.toNat_inj.mp x
    rfl
  · rename_i rest bytes
    obtain ⟨d, more, rfl, x, rfl⟩ := flatMap_charBytes_eq_zero_cons bytes (by decide)
    obtain rfl : d = 'X' := Char.toNat_inj.mp x
    rfl
  · -- no marker in the bytes, so none in the characters that spell them
    rename_i bytes noLower noUpper
    unfold afterMarker
    split
    · exact absurd rfl (noLower _)
    · exact absurd rfl (noUpper _)
    · rfl

/-! ## Digits -/

theorem digitValue?_isSome_iff (n : Nat) : (digitValue? n).isSome ↔
    (48 ≤ n ∧ n ≤ 57) ∨ (97 ≤ n ∧ n ≤ 102) ∨ (65 ≤ n ∧ n ≤ 70) := by
  unfold digitValue?
  split_ifs <;> simp <;> omega

/-- A hex digit's value, written back as `encode` writes digits, is the digit in lower
case. -/
theorem digitValue?_hexDigit {c : Char} (hex : c.isHexDigit = true) :
    ∃ v < 16, digitValue? c.toNat = some v ∧ digitChar v = c.toLower := by
  rw [toLower_eq_ite]
  rcases (isHexDigit_iff c).mp hex with digit | lower | upper
  · refine ⟨c.toNat - 48, by omega, by rw [digitValue?, if_pos digit], ?_⟩
    rw [if_neg (mt (isAsciiUpper_iff c).mp (by omega)), digitChar, if_pos (by omega),
      show 48 + (c.toNat - 48) = c.toNat by omega, Char.ofNat_toNat]
  · refine ⟨c.toNat - 87, by omega, by rw [digitValue?, if_neg (by omega), if_pos lower], ?_⟩
    rw [if_neg (mt (isAsciiUpper_iff c).mp (by omega)), digitChar, if_neg (by omega),
      show 87 + (c.toNat - 87) = c.toNat by omega, Char.ofNat_toNat]
  · refine ⟨c.toNat - 55, by omega,
      by rw [digitValue?, if_neg (by omega), if_neg (by omega), if_pos upper], ?_⟩
    rw [if_pos ((isAsciiUpper_iff c).mpr (by omega)), digitChar, if_neg (by omega),
      show 87 + (c.toNat - 55) = c.toNat + 32 by omega]

theorem charBytes_digits_iff (c : Char) :
    (∀ b ∈ charBytes c, (digitValue? b).isSome) ↔ c.isHexDigit = true := by
  by_cases ascii : c.toNat < 128
  · rw [charBytes_ascii ascii, isHexDigit_iff]
    simp [digitValue?_isSome_iff]
  · obtain ⟨b, more, first⟩ := List.exists_cons_of_ne_nil (charBytes_ne_nil c)
    have high : 128 ≤ b := charBytes_high (by omega : 128 ≤ c.toNat) b
      (by rw [first]; exact List.mem_cons_self)
    constructor
    · intro digits
      have := (digitValue?_isSome_iff b).mp (digits b (by rw [first]; exact List.mem_cons_self))
      omega
    · intro hex
      exact absurd (hexDigit_ascii hex) ascii

theorem flatMap_charBytes_digits_iff (cs : List Char) :
    (∀ b ∈ cs.flatMap charBytes, (digitValue? b).isSome) ↔ ∀ c ∈ cs, c.isHexDigit = true := by
  simp only [List.mem_flatMap, forall_exists_index, and_imp]
  constructor
  · exact fun digits c mem => (charBytes_digits_iff c).mp fun b byte => digits b c mem byte
  · exact fun hex b c mem byte => (charBytes_digits_iff c).mpr (hex c mem) b byte

theorem flatMap_charBytes_hex {cs : List Char} (hex : ∀ c ∈ cs, c.isHexDigit = true) :
    cs.flatMap charBytes = cs.map Char.toNat := by
  induction cs with
  | nil => rfl
  | cons c rest ih =>
    rw [List.flatMap_cons, charBytes_ascii (hexDigit_ascii (hex c List.mem_cons_self)),
      ih fun d mem => hex d (List.mem_cons_of_mem c mem)]
    rfl

/-! ## Pairs of digits -/

theorem decodePairs_ok_digits {index : Nat} {bytes out : List Nat}
    (decoded : decodePairs index bytes = .ok out) : ∀ b ∈ bytes, (digitValue? b).isSome := by
  fun_induction decodePairs index bytes generalizing out with
  | case1 => simp
  | case2 => cases decoded
  | case3 => cases decoded
  | case4 index hi lo rest h hiVal l loVal ih =>
    obtain ⟨tail, decodedRest⟩ : ∃ tail, decodePairs (index + 2) rest = .ok tail := by
      cases rest' : decodePairs (index + 2) rest with
      | error e => rw [rest'] at decoded; cases decoded
      | ok tail => exact ⟨tail, rfl⟩
    intro b mem
    simp only [List.mem_cons] at mem
    rcases mem with rfl | rfl | mem
    · simp [hiVal]
    · simp [loVal]
    · exact ih decodedRest b mem
  | case5 => cases decoded

/-- Hex digits, two at a time, read as the bytes whose encoding is those digits in lower
case. -/
theorem decodePairs_hexDigits : ∀ (index : Nat) (cs : List Char),
    (∀ c ∈ cs, c.isHexDigit = true) → cs.length % 2 = 0 →
      ∃ out, decodePairs index (cs.map Char.toNat) = .ok out ∧
        digitsOf out = cs.map Char.toLower ∧ ∀ b ∈ out, b < 256
  | _, [], _, _ => ⟨[], rfl, rfl, by simp⟩
  | _, [_], _, even => by simp at even
  | index, hi :: lo :: rest, hex, even => by
    obtain ⟨h, hSmall, hValue, hChar⟩ := digitValue?_hexDigit (hex hi (by simp))
    obtain ⟨l, lSmall, lValue, lChar⟩ := digitValue?_hexDigit (hex lo (by simp))
    obtain ⟨out, decoded, digits, bytes⟩ := decodePairs_hexDigits (index + 2) rest
      (fun c mem => hex c (by simp [mem])) (by simp at even; omega)
    refine ⟨(h * 16 + l) :: out, ?_, ?_, ?_⟩
    · simp only [List.map_cons, decodePairs, hValue, lValue, decoded]
      rfl
    · have high : (h * 16 + l) / 16 % 16 = h := by omega
      have low : (h * 16 + l) % 16 = l := by omega
      simp only [digitsOf, List.flatMap_cons, high, low, hChar, lChar, List.map_cons]
      rw [← digitsOf, digits]
      rfl
    · intro b mem
      simp only [List.mem_cons] at mem
      rcases mem with rfl | mem
      · omega
      · exact bytes b mem

/-! ## The decoder on characters -/

/-- `decode` reads the bytes of the characters after the marker. -/
theorem decode_eq (s : String) :
    decode s =
      if ((afterMarker s.toList).flatMap charBytes).length % 2 == 1 then .error .oddLength
      else decodePairs 0 ((afterMarker s.toList).flatMap charBytes) := by
  rw [decode, toUTF8_charBytes, stripMarker_charBytes]

/-- An even number of hex digits after the marker reads as the bytes whose encoding is
those digits in lower case. -/
theorem decode_hexDigits {s : String} (hex : ∀ c ∈ afterMarker s.toList, c.isHexDigit = true)
    (even : (afterMarker s.toList).length % 2 = 0) :
    ∃ out, decode s = .ok out ∧ digitsOf out = (afterMarker s.toList).map Char.toLower ∧
      ∀ b ∈ out, b < 256 := by
  obtain ⟨out, decoded, digits, bytes⟩ := decodePairs_hexDigits 0 _ hex even
  refine ⟨out, ?_, digits, bytes⟩
  rw [decode_eq, flatMap_charBytes_hex hex, List.length_map]
  simp only [even]
  exact decoded

theorem hexDigits_of_decode {s : String} {out : List Nat} (decoded : decode s = .ok out) :
    (∀ c ∈ afterMarker s.toList, c.isHexDigit = true) ∧
      (afterMarker s.toList).length % 2 = 0 := by
  rw [decode_eq] at decoded
  split at decoded
  · cases decoded
  · rename_i odd
    have hex := (flatMap_charBytes_digits_iff _).mp (decodePairs_ok_digits decoded)
    refine ⟨hex, ?_⟩
    rw [flatMap_charBytes_hex hex, List.length_map] at odd
    simpa using odd

/-- A successful read read hex digits after the marker, and its bytes are written as
those digits in lower case. -/
theorem decode_ok_spec {s : String} {out : List Nat} (decoded : decode s = .ok out) :
    (∀ c ∈ afterMarker s.toList, c.isHexDigit = true) ∧
      digitsOf out = (afterMarker s.toList).map Char.toLower ∧ ∀ b ∈ out, b < 256 := by
  obtain ⟨hex, even⟩ := hexDigits_of_decode decoded
  obtain ⟨out', decoded', digits, bytes⟩ := decode_hexDigits hex even
  rw [decoded] at decoded'
  cases decoded'
  exact ⟨hex, digits, bytes⟩

theorem length_of_digitsOf {out : List Nat} {cs : List Char}
    (digits : digitsOf out = cs.map Char.toLower) : 2 * out.length = cs.length := by
  rw [← length_digitsOf, digits, List.length_map]

/-! ## Bytes as numbers -/

theorem valueOf_cons (b : Nat) (rest : List Nat) :
    valueOf (b :: rest) = b * 256 ^ rest.length + valueOf rest := by
  rw [valueOf, List.foldl_cons, foldl_value, Nat.zero_mul, Nat.zero_add]

theorem valueOf_lt {bytes : List Nat} (isBytes : ∀ b ∈ bytes, b < 256) :
    valueOf bytes < 256 ^ bytes.length := by
  induction bytes with
  | nil => simp [valueOf]
  | cons b rest ih =>
    have byte := isBytes b List.mem_cons_self
    have below := ih fun x mem => isBytes x (List.mem_cons_of_mem b mem)
    rw [valueOf_cons, List.length_cons, Nat.pow_succ]
    nlinarith

/-- The bytes of a number are the bytes it was spelled from, whatever lies above them. -/
theorem bytesOf_valueOf_add {bytes : List Nat} (isBytes : ∀ b ∈ bytes, b < 256)
    (above : Nat) : bytesOf bytes.length (above * 256 ^ bytes.length + valueOf bytes) = bytes := by
  induction bytes generalizing above with
  | nil => rfl
  | cons b rest ih =>
    have byte := isBytes b List.mem_cons_self
    have restBytes : ∀ x ∈ rest, x < 256 := fun x mem => isBytes x (List.mem_cons_of_mem b mem)
    have below := valueOf_lt restBytes
    have regroup : above * 256 ^ (rest.length + 1) + (b * 256 ^ rest.length + valueOf rest) =
        (above * 256 + b) * 256 ^ rest.length + valueOf rest := by ring
    rw [List.length_cons, bytesOf_succ, valueOf_cons, regroup, ih restBytes]
    have high : ((above * 256 + b) * 256 ^ rest.length + valueOf rest) / 256 ^ rest.length =
        above * 256 + b := by
      rw [Nat.add_comm, Nat.add_mul_div_right _ _ (Nat.pow_pos (by decide)),
        Nat.div_eq_of_lt below, Nat.zero_add]
    rw [high]
    congr 1
    omega

theorem bytesOf_valueOf {bytes : List Nat} (isBytes : ∀ b ∈ bytes, b < 256) :
    bytesOf bytes.length (valueOf bytes) = bytes := by
  simpa using bytesOf_valueOf_add isBytes 0

end Hex

/-! ## Values of a fixed width -/

namespace HexValue

theorem render_eq_digits (width value : Nat) :
    render width value = "0x" ++ String.ofList (Hex.digitsOf (Hex.bytesOf width value)) := rfl

theorem render_valueOf {bytes : List Nat} (isBytes : ∀ b ∈ bytes, b < 256) :
    render bytes.length (Hex.valueOf bytes) = "0x" ++ String.ofList (Hex.digitsOf bytes) := by
  rw [render_eq_digits, Hex.bytesOf_valueOf isBytes]

/-- Values that fit are written apart. -/
theorem render_inj {width v w : Nat} (fitsV : v < 256 ^ width) (fitsW : w < 256 ^ width)
    (same : render width v = render width w) : v = w := by
  have back := read_render fitsV
  rw [same, read_render fitsW] at back
  cases back
  rfl

theorem read_of_decode_ok {width : Nat} {s : String} {out : List Nat}
    (decoded : Hex.decode s = .ok out) :
    read width s = if out.length = width then .ok (Hex.valueOf out)
      else .error (.invalidLength width out.length) := by
  simp [read, decoded]

theorem read_of_decode_error {width : Nat} {s : String} {e : Hex.DecodeError}
    (refused : Hex.decode s = .error e) : read width s = .error (.invalidHex e) := by
  simp [read, refused]

/-- A text reads as a value of `width` bytes exactly when its characters after one marker
are `2 * width` hex digits of either case; the value is then the one written as `0x` and
those digits in lower case. -/
theorem read_ok_iff (width : Nat) (s : String) (v : Nat) :
    read width s = .ok v ↔
      (∀ c ∈ Hex.afterMarker s.toList, c.isHexDigit = true) ∧
      (Hex.afterMarker s.toList).length = 2 * width ∧ v < 256 ^ width ∧
      render width v = "0x" ++ String.ofList ((Hex.afterMarker s.toList).map Char.toLower) := by
  constructor
  · intro readOk
    cases decoded : Hex.decode s with
    | error e => rw [read_of_decode_error decoded] at readOk; cases readOk
    | ok out =>
      rw [read_of_decode_ok decoded] at readOk
      split at readOk
      · rename_i len
        cases readOk
        obtain ⟨hex, digits, bytes⟩ := Hex.decode_ok_spec decoded
        have counted := Hex.length_of_digitsOf digits
        refine ⟨hex, by omega, len ▸ Hex.valueOf_lt bytes, ?_⟩
        rw [← len, render_valueOf bytes, digits]
      · cases readOk
  · rintro ⟨hex, length, fits, rendered⟩
    obtain ⟨out, decoded, digits, bytes⟩ := Hex.decode_hexDigits hex (by omega)
    have len : out.length = width := by
      have := Hex.length_of_digitsOf digits
      omega
    -- `v` and the value read are written alike and both fit, so they are the same
    have same : render width (Hex.valueOf out) = render width v := by
      rw [rendered, ← len, render_valueOf bytes, digits]
    have value := render_inj (len ▸ Hex.valueOf_lt bytes) fits same
    rw [read_of_decode_ok decoded, if_pos len, value]

/-- A text whose characters after the marker are not all hex digits, or are odd in number,
is refused as no hex at all. -/
theorem read_invalidHex (width : Nat) {s : String}
    (bad : ¬ (∀ c ∈ Hex.afterMarker s.toList, c.isHexDigit = true) ∨
      (Hex.afterMarker s.toList).length % 2 = 1) :
    ∃ e, read width s = .error (.invalidHex e) := by
  cases decoded : Hex.decode s with
  | error e => exact ⟨e, read_of_decode_error decoded⟩
  | ok out =>
    obtain ⟨hex, even⟩ := Hex.hexDigits_of_decode decoded
    rcases bad with notHex | odd
    · exact absurd hex notHex
    · omega

/-- An even number of hex digits that is not `2 * width` is refused as hex of the wrong
length, with the number of bytes it spells. -/
theorem read_invalidLength {width : Nat} {s : String}
    (hex : ∀ c ∈ Hex.afterMarker s.toList, c.isHexDigit = true)
    (even : (Hex.afterMarker s.toList).length % 2 = 0)
    (wrong : (Hex.afterMarker s.toList).length ≠ 2 * width) :
    read width s = .error (.invalidLength width ((Hex.afterMarker s.toList).length / 2)) := by
  obtain ⟨out, decoded, digits, -⟩ := Hex.decode_hexDigits hex even
  have len := Hex.length_of_digitsOf digits
  rw [read_of_decode_ok decoded, if_neg (by omega)]
  congr 2
  omega

end HexValue

/-! ## Accounts, fingerprints and hashes -/

/-- What the reader and the writer of a value of `width` bytes promise each other. Every
value that fits reads back from its text. A text reads as a value exactly when its
characters after one `0x` or `0X` are `2 * width` hex digits of either case, and the value
is then the one written as `0x` and those digits in lower case. Any other text is refused:
as no hex when a character is no hex digit or their number is odd, and as hex of the wrong
length, with the number of bytes it spells, when it is an even number of hex digits. -/
structure HexCodec {α : Type} (width : Nat) (val : α → Nat)
    (parse : String → Except HexValueError α) (render : α → String) : Prop where
  parse_render : ∀ a, val a < 256 ^ width → parse (render a) = .ok a
  parse_ok_iff : ∀ s a, parse s = .ok a ↔
    (∀ c ∈ Hex.afterMarker s.toList, c.isHexDigit = true) ∧
    (Hex.afterMarker s.toList).length = 2 * width ∧ val a < 256 ^ width ∧
    render a = "0x" ++ String.ofList ((Hex.afterMarker s.toList).map Char.toLower)
  invalid_hex : ∀ s, (¬ (∀ c ∈ Hex.afterMarker s.toList, c.isHexDigit = true) ∨
      (Hex.afterMarker s.toList).length % 2 = 1) →
    ∃ e, parse s = .error (.invalidHex e)
  invalid_length : ∀ s, (∀ c ∈ Hex.afterMarker s.toList, c.isHexDigit = true) →
    (Hex.afterMarker s.toList).length % 2 = 0 → (Hex.afterMarker s.toList).length ≠ 2 * width →
    parse s = .error (.invalidLength width ((Hex.afterMarker s.toList).length / 2))

/-- A value type kept as the number of its `width` bytes, read and written through
`HexValue`, keeps the promises of `HexCodec`. -/
theorem HexCodec.of_read {α : Type} {width : Nat} {val : α → Nat}
    {parse : String → Except HexValueError α} {render : α → String} (mk : Nat → α)
    (val_mk : ∀ n, val (mk n) = n) (mk_val : ∀ a, mk (val a) = a)
    (parse_eq : ∀ s, parse s = (HexValue.read width s).map mk)
    (render_eq : ∀ a, render a = HexValue.render width (val a)) :
    HexCodec width val parse render := by
  -- reading `a` is reading its number, since `mk` and `val` undo each other
  have map_ok : ∀ s a, (HexValue.read width s).map mk = .ok a ↔
      HexValue.read width s = .ok (val a) := by
    intro s a
    cases HexValue.read width s with
    | error e => constructor <;> intro h <;> cases h
    | ok v =>
      constructor
      · intro h
        cases h
        rw [val_mk]
      · intro h
        cases h
        show Except.ok (mk (val a)) = Except.ok a
        rw [mk_val]
  refine ⟨fun a fits => ?_, fun s a => ?_, fun s bad => ?_, fun s hex even wrong => ?_⟩
  · rw [parse_eq, render_eq, map_ok]
    exact HexValue.read_render fits
  · rw [parse_eq, render_eq, map_ok, HexValue.read_ok_iff]
  · obtain ⟨e, refused⟩ := HexValue.read_invalidHex width bad
    exact ⟨e, by rw [parse_eq, refused]; rfl⟩
  · rw [parse_eq, HexValue.read_invalidLength hex even wrong]
    rfl

/-! ## Hex values in JSON text -/

namespace Json

/-- A character a string literal holds as it is: no quote, no backslash, no control. -/
def Plain (c : Char) : Prop := 0x20 ≤ c.toNat ∧ c ≠ '"' ∧ c ≠ '\\'

theorem escapeChar_plain {c : Char} (plain : Plain c) : escapeChar c = String.singleton c := by
  obtain ⟨printable, notQuote, notBackslash⟩ := plain
  unfold escapeChar
  split
  · exact absurd rfl notQuote
  · exact absurd rfl notBackslash
  -- the five other short escapes are of control characters
  iterate 5 exact absurd printable (by decide)
  rw [if_neg (by omega)]

theorem quote_plain {cs : List Char} (plain : ∀ c ∈ cs, Plain c) :
    quote (String.ofList cs) = String.ofList ('"' :: cs ++ ['"']) := by
  have body : String.join ((String.ofList cs).toList.map escapeChar) = String.ofList cs := by
    apply String.toList_injective
    rw [String.toList_join, String.toList_ofList, List.flatMap_map]
    calc cs.flatMap (fun c => (escapeChar c).toList)
        = cs.flatMap (fun c => [c]) := List.flatMap_congr fun c mem => by
          rw [escapeChar_plain (plain c mem), String.toList_singleton]
      _ = cs := List.flatMap_singleton' cs
  rw [quote, body]
  apply String.toList_injective
  simp [String.toList_append]

theorem readString_go_plain (acc : String) {cs : List Char} (plain : ∀ c ∈ cs, Plain c)
    (rest : List Char) :
    readString.go acc (cs ++ '"' :: rest) = some (acc ++ String.ofList cs, rest) := by
  induction cs generalizing acc with
  | nil =>
    rw [List.nil_append, readString.go]
    simp
  | cons c more ih =>
    obtain ⟨printable, notQuote, notBackslash⟩ := plain c List.mem_cons_self
    rw [List.cons_append, readString.go, if_neg (by omega),
      ih _ fun d mem => plain d (List.mem_cons_of_mem c mem)]
    · congr 2
      apply String.toList_injective
      simp [String.toList_push, String.toList_append]
    · exact notQuote
    · intro e r backslash _
      exact notBackslash backslash

/-- A string of plain characters, written as JSON text, reads back as that string. -/
theorem parse_render_plain {s : String} (plain : ∀ c ∈ s.toList, Plain c) :
    parse (render (.str s)) = some (.str s) := by
  obtain ⟨cs, rfl⟩ : ∃ cs, s = String.ofList cs := ⟨s.toList, String.ofList_toList.symm⟩
  rw [String.toList_ofList] at plain
  rw [render, quote_plain plain, parse, String.toList_ofList]
  have start : skipBlanks ('"' :: (cs ++ ['"'])) = '"' :: (cs ++ ['"']) := rfl
  simp only [List.cons_append, readValue, start, readString,
    readString_go_plain "" plain [], Option.map_some, String.empty_append]
  rfl

end Json

theorem HexValue.render_plain (width value : Nat) :
    ∀ c ∈ (HexValue.render width value).toList, Json.Plain c := by
  intro c mem
  simp only [HexValue.render_eq_digits, String.toList_append, String.toList_ofList] at mem
  rcases List.mem_append.mp mem with marker | digit
  · simp only [show "0x".toList = ['0', 'x'] from rfl, List.mem_cons, List.not_mem_nil,
      or_false] at marker
    rcases marker with rfl | rfl <;> exact ⟨by decide, by decide, by decide⟩
  · obtain ⟨n, small, rfl⟩ := Hex.mem_digitsOf digit
    have code := Hex.digitChar_toNat small
    refine ⟨by split at code <;> omega, fun quote => ?_, fun backslash => ?_⟩
    · rw [quote] at code
      split at code <;> simp at code <;> omega
    · rw [backslash] at code
      split at code <;> simp at code <;> omega

/-- Accounts, fingerprints and transaction hashes decode exactly what they encode: each
keeps the promises of `HexCodec` for its width, twenty or thirty-two bytes, and each that
fits reads back from its JSON text. -/
theorem hex_values_decode_exactly :
    HexCodec 20 Address.val Address.parse Address.render ∧
    HexCodec 32 Fingerprint.val Fingerprint.parse Fingerprint.render ∧
    HexCodec 32 TxHash.val TxHash.parse TxHash.render ∧
    (∀ a : Address, a.val < 256 ^ 20 →
      (Json.parse (Json.render (Wire.address a))).bind Wire.address? = some a) ∧
    (∀ f : Fingerprint, f.val < 256 ^ 32 →
      (Json.parse (Json.render (Wire.fingerprint f))).bind Wire.fingerprint? = some f) ∧
    (∀ h : TxHash, h.val < 256 ^ 32 →
      (Json.parse (Json.render (.str h.render))).bind Wire.txHash? = some h) := by
  refine ⟨HexCodec.of_read Address.mk (fun _ => rfl) (fun _ => rfl) (fun _ => rfl) (fun _ => rfl),
    HexCodec.of_read Fingerprint.mk (fun _ => rfl) (fun _ => rfl) (fun _ => rfl) (fun _ => rfl),
    HexCodec.of_read TxHash.mk (fun _ => rfl) (fun _ => rfl) (fun _ => rfl) (fun _ => rfl),
    fun a fits => ?_, fun f fits => ?_, fun h fits => ?_⟩
  · rw [Wire.address, Json.parse_render_plain (s := a.render) (HexValue.render_plain 20 a.val),
      Option.bind_some]
    exact Wire.address?_address fits
  · rw [Wire.fingerprint,
      Json.parse_render_plain (s := f.render) (HexValue.render_plain 32 f.val), Option.bind_some]
    exact Wire.fingerprint?_fingerprint fits
  · rw [Json.parse_render_plain (s := h.render) (HexValue.render_plain 32 h.val),
      Option.bind_some]
    exact Wire.txHash?_render fits

/-- The account whose last bytes are `0xdeadbeef` reads back from its text and from its
JSON text, and `0x1234` is refused as two bytes where twenty were expected. -/
theorem dead_beef_address_round_trips :
    (Address.ofLowU64 0xdeadbeef).val < 256 ^ 20 ∧
    Address.parse (Address.ofLowU64 0xdeadbeef).render = .ok (Address.ofLowU64 0xdeadbeef) ∧
    (Json.parse (Json.render (Wire.address (Address.ofLowU64 0xdeadbeef)))).bind
      Wire.address? = some (Address.ofLowU64 0xdeadbeef) ∧
    Address.parse "0x1234" = .error (.invalidLength 20 2) := by
  obtain ⟨address, -, -, json, -, -⟩ := hex_values_decode_exactly
  have fits : (Address.ofLowU64 0xdeadbeef).val < 256 ^ 20 := by
    simp only [Address.ofLowU64, Nat.pow_eq]
    norm_num
  have digits : Hex.afterMarker "0x1234".toList = ['1', '2', '3', '4'] := by decide
  have refused := address.invalid_length "0x1234" (by rw [digits]; simp [isHexDigit_iff])
    (by rw [digits]; rfl) (by rw [digits]; decide)
  rw [digits] at refused
  exact ⟨fits, address.parse_render _ fits, json _ fits, refused⟩

end TicketMarket
