/-
This file shows that the RPC tag parameter reads back exactly the ledger keys.
-/

import MultiflexPol.Rpc
import Mathlib.Data.List.Forall2

namespace Multiflex.Pol

/-- Each digit `HexStr` writes, in either case, is a hex digit of its value. -/
theorem hexChar_caseVariant : ∀ nibble : Fin 16, ∀ c ∈ [hexChar nibble, (hexChar nibble).toUpper],
    hexDigit c = some nibble ∧ isSpace c = false ∧ c.utf8Size = 1 := by
  decide

theorem caseVariant_digit {nibble : Nat} (small : nibble < 16) {c : Char}
    (variant : c = hexChar nibble ∨ c = (hexChar nibble).toUpper) :
    hexDigit c = some nibble ∧ isSpace c = false ∧ c.utf8Size = 1 :=
  hexChar_caseVariant ⟨nibble, small⟩ c (by rcases variant with rfl | rfl <;> simp)

theorem nibbles_small (byte : UInt8) : byte.toNat / 16 < 16 ∧ byte.toNat % 16 < 16 := by
  have bound : byte.toNat < 256 := byte.toNat_lt_size
  constructor <;> omega

theorem byte_ofNat_toNat (byte : UInt8) : UInt8.ofNat byte.toNat = byte := by
  have bound : byte.toNat < 256 := byte.toNat_lt_size
  exact byte_eq_of_nibbles (by rw [UInt8.toNat_ofNat_of_lt bound]) (by rw [UInt8.toNat_ofNat_of_lt bound])

/-- `TryParseHex` reads back the bytes of `HexStr` with the case of any letters changed. -/
theorem parseHexChars_caseVariant {tag : Bytes} {s : List Char}
    (variant : List.Forall₂ (fun h c => c = h ∨ c = h.toUpper) (hexChars tag) s) :
    parseHexChars s = some tag := by
  induction tag generalizing s with
  | nil => cases variant; rfl
  | cons byte tag inductionHypothesis =>
    obtain ⟨highSmall, lowSmall⟩ := nibbles_small byte
    simp only [hexChars, List.flatMap_cons, List.cons_append, List.nil_append] at variant
    obtain _ | ⟨highVariant, _ | ⟨lowVariant, variant⟩⟩ := variant
    obtain ⟨highDigit, highBlank, -⟩ := caseVariant_digit highSmall highVariant
    obtain ⟨lowDigit, -, -⟩ := caseVariant_digit lowSmall lowVariant
    rw [parseHexChars, if_neg (by simp [highBlank]), highDigit, lowDigit]
    simp only [inductionHypothesis variant, Option.map_some', Option.some.injEq, List.cons.injEq,
      and_true]
    rw [show byte.toNat / 16 * 16 + byte.toNat % 16 = byte.toNat by omega, byte_ofNat_toNat]

/-- A string of one-byte characters takes one byte per character. -/
theorem utf8ByteSize_of_oneByte {s : String} (oneByte : ∀ c ∈ s.data, c.utf8Size = 1) :
    s.utf8ByteSize = s.length := by
  obtain ⟨chars⟩ := s
  change String.utf8ByteSize.go chars = chars.length
  induction chars with
  | nil => rfl
  | cons c chars inductionHypothesis =>
    simp only [String.utf8ByteSize.go, List.length_cons]
    rw [inductionHypothesis fun c mem => oneByte c (List.mem_cons_of_mem _ mem),
      oneByte c (List.mem_cons_self _ _)]

/-- A hex digit is one byte. -/
theorem utf8Size_of_hexDigit {c : Char} (digit : (hexDigit c).isSome) : c.utf8Size = 1 := by
  have belowF : c ≤ 'f' := by
    unfold hexDigit at digit
    split_ifs at digit with decimal lower upper
    · exact Char.le_trans decimal.2 (by decide)
    · exact lower.2
    · exact Char.le_trans upper.2 (by decide)
    · cases digit
  exact if_pos (UInt32.le_trans belowF (by decide))

theorem mem_hexChars {tag : Bytes} {h : Char} (mem : h ∈ hexChars tag) :
    ∃ nibble < 16, h = hexChar nibble := by
  simp only [hexChars, List.mem_flatMap, List.mem_cons, List.mem_singleton, List.not_mem_nil,
    or_false] at mem
  obtain ⟨byte, -, high | low⟩ := mem
  · exact ⟨_, (nibbles_small byte).1, high⟩
  · exact ⟨_, (nibbles_small byte).2, low⟩

theorem length_hexChars (tag : Bytes) : (hexChars tag).length = 2 * tag.length := by
  induction tag with
  | nil => rfl
  | cons byte tag inductionHypothesis =>
    simp only [hexChars, List.flatMap_cons, List.length_append, List.length_cons,
      List.length_nil] at inductionHypothesis ⊢
    omega

/-- Every character of a case variant of hex digits is a one-byte hex digit. -/
theorem caseVariant_oneByteDigits {digits s : List Char}
    (variant : List.Forall₂ (fun h c => c = h ∨ c = h.toUpper) digits s)
    (hex : ∀ h ∈ digits, ∃ nibble < 16, h = hexChar nibble) :
    ∀ c ∈ s, (hexDigit c).isSome ∧ c.utf8Size = 1 := by
  induction variant with
  | nil => simp
  | cons related _ inductionHypothesis =>
    rintro c (_ | ⟨_, mem⟩)
    · obtain ⟨nibble, small, rfl⟩ := hex _ (List.mem_cons_self _ _)
      obtain ⟨digit, -, oneByte⟩ := caseVariant_digit small related
      exact ⟨by simp [digit], oneByte⟩
    · exact inductionHypothesis (fun h mem => hex h (List.mem_cons_of_mem _ mem)) c mem

/-- On an accepted tag parameter, `getpolallowedtag` is the subsidy of that tag. -/
theorem getpolallowedtag_of_parse {s : String} {tag : Bytes} (parsed : parseMinerTagHex s = .ok tag)
    (getBlockSubsidy : Int → Int) (state : TagState) (tip : Int) (rest : List UniValue) :
    getpolallowedtag getBlockSubsidy state tip (.str s :: rest) =
      (if 0 < rest.length then parseHeightFlexible (rest.getD 0 .null) else pure (tip + 1)).map
        fun height =>
          { tipHeight := tip, height, minerTagHex := s, minerTagLen := tag.length,
            allowedSubsidy := getAllowedSubsidy getBlockSubsidy state tag height } := by
  cases rest with
  | nil => simp [getpolallowedtag, UniValue.getStr, parsed, bind, Except.bind, pure, Except.pure, Except.map]
  | cons height rest =>
    simp only [getpolallowedtag, List.getD_cons_zero, List.getD_cons_succ, UniValue.getStr,
      bind, Except.bind, parsed, List.length_cons, if_pos (show rest.length + 1 + 1 > 1 by omega),
      if_pos (show 0 < rest.length + 1 by omega)]
    cases parseHeightFlexible height <;> rfl

/-- A string of hex digits takes one byte per character. -/
theorem utf8ByteSize_of_allHex {s : String} (hex : s.toList.all (fun c => (hexDigit c).isSome)) :
    s.utf8ByteSize = s.length :=
  utf8ByteSize_of_oneByte fun c mem => utf8Size_of_hexDigit (List.all_eq_true.1 hex c mem)

/-- `ParseMinerTagHex` reads back `HexStr(t)` of a 4, 8 or 12 byte tag, in any case. -/
theorem parseMinerTagHex_of_caseVariant {tag : Bytes}
    (sized : tag.length = 4 ∨ tag.length = 8 ∨ tag.length = 12) {s : String}
    (variant : List.Forall₂ (fun h c => c = h ∨ c = h.toUpper) (hexStr tag).data s.data) :
    parseMinerTagHex s = .ok tag := by
  have digits := caseVariant_oneByteDigits variant fun h mem => mem_hexChars mem
  have size : s.utf8ByteSize = 2 * tag.length :=
    (utf8ByteSize_of_oneByte fun c mem => (digits c mem).2).trans
      (variant.length_eq.symm.trans (length_hexChars tag))
  have hex : isHex s = true := by
    simp only [isHex, Bool.and_eq_true, List.all_eq_true, decide_eq_true_eq, size]
    exact ⟨⟨fun c mem => (digits c mem).1, by omega⟩, by omega⟩
  simp only [parseMinerTagHex, size, hex, Bool.not_true]
  rw [if_neg (by omega), parseHex,
    show parseHexChars s.toList = some tag from parseHexChars_caseVariant variant]
  rfl

/-- `ParseMinerTagHex` rejects strings not 8, 16 or 24 hex digits, with the right message. -/
theorem parseMinerTagHex_of_not_hexDigits {s : String}
    (notHex : ¬ ((∀ c ∈ s.data, (hexDigit c).isSome) ∧
      (s.length = 8 ∨ s.length = 16 ∨ s.length = 24))) :
    parseMinerTagHex s = .error (.jsonRpc RPC_INVALID_PARAMETER
        "miner_tag_hex must be 4, 8 or 12 bytes (8/16/24 hex chars)") ∨
      parseMinerTagHex s = .error (.jsonRpc RPC_INVALID_PARAMETER "miner_tag_hex must be hex") := by
  simp only [parseMinerTagHex]
  by_cases sized : s.utf8ByteSize = 8 ∨ s.utf8ByteSize = 16 ∨ s.utf8ByteSize = 24
  · have notHexString : isHex s = false := by
      by_contra isHexString
      simp only [isHex, Bool.not_eq_false, Bool.and_eq_true] at isHexString
      rw [utf8ByteSize_of_allHex isHexString.1.1] at sized
      exact notHex ⟨List.all_eq_true.1 isHexString.1.1, sized⟩
    rw [if_neg (not_not.2 sized), notHexString]
    exact .inr rfl
  · exact .inl (if_pos sized)

/-- The tag parameter reads back every ledger key in any case and rejects the rest. -/
theorem parseMinerTagHex_caseVariant :
    (∀ tag : Bytes, (tag.length = 4 ∨ tag.length = 8 ∨ tag.length = 12) →
      ∀ s : String, List.Forall₂ (fun h c => c = h ∨ c = h.toUpper) (hexStr tag).data s.data →
        parseMinerTagHex s = .ok tag ∧
        (∀ getBlockSubsidy state tip rest,
          getpolallowedtag getBlockSubsidy state tip (.str s :: rest) =
            (if 0 < rest.length then parseHeightFlexible (rest.getD 0 .null) else pure (tip + 1)).map
              fun height =>
                { tipHeight := tip, height, minerTagHex := s, minerTagLen := tag.length,
                  allowedSubsidy := getAllowedSubsidy getBlockSubsidy state tag height }) ∧
        ∀ args block height, creditedKey args block height = some (hexStr tag) ↔
          args.polStartHeight ≤ height ∧ extractMinerTagFromBlock block = some tag) ∧
    ∀ s : String,
      ¬ ((∀ c ∈ s.data, (hexDigit c).isSome) ∧ (s.length = 8 ∨ s.length = 16 ∨ s.length = 24)) →
        parseMinerTagHex s = .error (.jsonRpc RPC_INVALID_PARAMETER
          "miner_tag_hex must be 4, 8 or 12 bytes (8/16/24 hex chars)") ∨
        parseMinerTagHex s = .error (.jsonRpc RPC_INVALID_PARAMETER "miner_tag_hex must be hex") :=
  ⟨fun tag sized _ variant =>
    have parsed := parseMinerTagHex_of_caseVariant sized variant
    ⟨parsed, getpolallowedtag_of_parse parsed,
      fun args block height => creditedKey_eq_hexStr_iff args block height tag⟩,
    fun _ notHex => parseMinerTagHex_of_not_hexDigits notHex⟩

theorem parseMinerTagHex_caseVariant_mixedCase :
    parseMinerTagHex "ABcd0102" = .ok [0xab, 0xcd, 0x01, 0x02] ∧
      (parseMinerTagHex "0x010203" = .error (.jsonRpc RPC_INVALID_PARAMETER
          "miner_tag_hex must be 4, 8 or 12 bytes (8/16/24 hex chars)") ∨
        parseMinerTagHex "0x010203" =
          .error (.jsonRpc RPC_INVALID_PARAMETER "miner_tag_hex must be hex")) :=
  ⟨(parseMinerTagHex_caseVariant.1 [0xab, 0xcd, 0x01, 0x02] (.inl rfl) "ABcd0102" (by decide)).1,
    parseMinerTagHex_caseVariant.2 "0x010203" (by decide)⟩

end Multiflex.Pol
