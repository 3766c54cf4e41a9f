/-
This file models the object `getpoladdressstatus` returns and the integer text in it.
-/

import MultiflexPol.StatusResponse
import MultiflexPol.TagHex
import MultiflexPol.HeightText
import Mathlib.Tactic.IntervalCases
import Mathlib.Tactic.Ring
import Mathlib.Data.Nat.Digits

namespace Multiflex.Pol

/-- A `UniValue` as `executeRpc`'s caller reads it: number text and ordered members. -/
inductive Reply
  | null
  | bool (value : Bool)
  | num (text : String)
  | str (value : String)
  | arr (items : List Reply)
  | obj (members : List (String × Reply))
deriving Repr

/-- `UniValue::pushKV`: the key's first member gets the value, or one is appended. -/
def pushKV : List (String × Reply) → String → Reply → List (String × Reply)
  | [], key, value => [(key, value)]
  | member :: rest, key, value =>
    if member.1 = key then (key, value) :: rest else member :: pushKV rest key value

/-- `UniValue::find_value`: the key's first member, or `null`. -/
def Reply.findValue (v : Reply) (key : String) : Reply :=
  match v with
  | .obj members => ((members.find? (·.1 = key)).map (·.2)).getD .null
  | _ => .null

@[simp] theorem findValue_pushKV_self (members : List (String × Reply)) (key : String)
    (value : Reply) : (Reply.obj (pushKV members key value)).findValue key = value := by
  induction members with
  | nil => simp [pushKV, Reply.findValue]
  | cons member rest ih =>
    unfold pushKV
    split_ifs with same
    · simp [Reply.findValue]
    · simpa [Reply.findValue, same] using ih

@[simp] theorem findValue_pushKV_ne (members : List (String × Reply)) {key other : String}
    (value : Reply) (differ : other ≠ key) :
    (Reply.obj (pushKV members key value)).findValue other = (Reply.obj members).findValue other := by
  induction members with
  | nil => simp [pushKV, Reply.findValue, Ne.symm differ]
  | cons member rest ih =>
    unfold pushKV
    split_ifs with same
    · simp [Reply.findValue, same, Ne.symm differ]
    · by_cases found : member.1 = other
      · simp [Reply.findValue, found]
      · simpa [Reply.findValue, found] using ih

/-- `PolUnwrapRpcResult`, in both pages: the non-null `result` member, else the value. -/
def polUnwrapRpcResult (maybeWrapped : Reply) : Reply :=
  match maybeWrapped with
  | .obj _ =>
    match maybeWrapped.findValue "result" with
    | .null => maybeWrapped
    | res => res
  | _ => maybeWrapped

/-! ### Integers as text -/

/-- The text `UniValue::setInt` writes: decimal digits after a `-` when negative. -/
def intText (value : Int) : String := toString value

/-- The sign `std::from_chars` reads: a leading `-`. -/
def splitSign : List Char → Bool × List Char
  | '-' :: rest => (true, rest)
  | rest => (false, rest)

/-- `UniValue::getInt<T>`: `from_chars` over the whole text, where `fits` gives `T`. -/
def getIntOf (fits : Int → Prop) [DecidablePred fits] (text : String) :
    Except RpcException Int :=
  let (negative, rest) := splitSign text.toList
  let digits := rest.takeWhile Char.isDigit
  let value : Int := if negative then -(decimalValue digits : Int) else decimalValue digits
  if digits = [] ∨ digits.length ≠ rest.length ∨ ¬ fits value then
    .error (.runtime "JSON integer out of range")
  else .ok value

theorem getIntInt_eq_getIntOf (text : String) : getIntInt text = getIntOf FitsInt text := rfl

theorem splitSign_of_ne {c : Char} (rest : List Char) (other : c ≠ '-') :
    splitSign (c :: rest) = (false, c :: rest) := by
  unfold splitSign
  split
  · next same => cases same; exact absurd rfl other
  · rfl

theorem decimalValue_append (front back : List Char) :
    decimalValue (front ++ back) = decimalValue front * 10 ^ back.length + decimalValue back := by
  suffices shift : ∀ (start : Nat) (digits : List Char),
      digits.foldl (fun value c => 10 * value + (c.toNat - '0'.toNat)) start =
        start * 10 ^ digits.length + decimalValue digits by
    rw [decimalValue, List.foldl_append, shift]; rfl
  intro start digits
  induction digits generalizing start with
  | nil => simp [decimalValue]
  | cons c digits ih =>
    have first : decimalValue (c :: digits) =
        (c.toNat - '0'.toNat) * 10 ^ digits.length + decimalValue digits := by
      show List.foldl _ 0 (c :: digits) = _
      rw [List.foldl_cons, ih, Nat.mul_zero, Nat.zero_add]
    rw [List.foldl_cons, ih, first, List.length_cons, Nat.pow_succ]
    ring

theorem digitChar_digit {d : Nat} (small : d < 10) :
    (Nat.digitChar d).isDigit = true ∧ (Nat.digitChar d).toNat - '0'.toNat = d := by
  interval_cases d <;> decide

theorem toDigitsCore_append (fuel n : Nat) (acc : List Char) :
    Nat.toDigitsCore 10 fuel n acc = Nat.toDigitsCore 10 fuel n [] ++ acc := by
  induction fuel generalizing n acc with
  | zero => rfl
  | succ fuel ih =>
    simp only [Nat.toDigitsCore]
    split_ifs
    · rfl
    · rw [ih, ih _ [_], List.append_assoc, List.singleton_append]

/-- The digits `Nat.toDigits` writes are decimal digits, and their value is the number. -/
theorem toDigitsCore_digits (fuel n : Nat) (enough : n < fuel) :
    Nat.toDigitsCore 10 fuel n [] ≠ [] ∧ (∀ c ∈ Nat.toDigitsCore 10 fuel n [], c.isDigit = true) ∧
      decimalValue (Nat.toDigitsCore 10 fuel n []) = n := by
  induction fuel generalizing n with
  | zero => omega
  | succ fuel ih =>
    obtain ⟨isDigit, value⟩ := digitChar_digit (Nat.mod_lt n (by decide : 10 > 0))
    simp only [Nat.toDigitsCore]
    split_ifs with last
    · refine ⟨List.cons_ne_nil _ _, by simpa using isDigit, ?_⟩
      simp only [decimalValue, List.foldl_cons, List.foldl_nil, value]
      omega
    · obtain ⟨-, digits, higher⟩ := ih (n / 10) (by omega)
      rw [toDigitsCore_append]
      refine ⟨by simp, fun c mem => ?_, ?_⟩
      · rcases List.mem_append.1 mem with inner | last
        · exact digits c inner
        · rw [List.mem_singleton.1 last]
          exact isDigit
      · rw [decimalValue_append, higher]
        simp only [decimalValue, List.foldl_cons, List.foldl_nil, value, List.length_singleton]
        omega

/-- `from_chars` reads all of `Nat.toDigits`'s digits back to the number. -/
theorem toDigits_read (n : Nat) :
    splitSign (Nat.toDigits 10 n) = (false, Nat.toDigits 10 n) ∧
      (Nat.toDigits 10 n).takeWhile Char.isDigit = Nat.toDigits 10 n ∧
      Nat.toDigits 10 n ≠ [] ∧ decimalValue (Nat.toDigits 10 n) = n := by
  obtain ⟨nonempty, digits, decimal⟩ := toDigitsCore_digits (n + 1) n (Nat.lt_succ_self n)
  refine ⟨?_, List.takeWhile_eq_self_iff.2 digits, nonempty, decimal⟩
  obtain ⟨c, rest, split⟩ := List.exists_cons_of_ne_nil nonempty
  change splitSign (Nat.toDigitsCore 10 (n + 1) n []) = (false, Nat.toDigitsCore 10 (n + 1) n [])
  rw [split]
  refine splitSign_of_ne rest fun minus => ?_
  have := digits c (by rw [split]; exact List.mem_cons_self _ _)
  rw [minus] at this
  cases this

theorem intText_natCast (n : Nat) : (intText n).toList = Nat.toDigits 10 n := rfl

theorem intText_negSucc (n : Nat) :
    (intText (Int.negSucc n)).toList = '-' :: Nat.toDigits 10 (n + 1) := rfl

/-- `getInt<T>` reads back `setInt`'s text, or throws when `T` cannot hold it. -/
theorem getIntOf_intText (fits : Int → Prop) [DecidablePred fits] (value : Int) :
    getIntOf fits (intText value) =
      if fits value then .ok value else .error (.runtime "JSON integer out of range") := by
  cases value with
  | ofNat n =>
    obtain ⟨sign, whole, nonempty, decimal⟩ := toDigits_read n
    simp only [getIntOf, Int.ofNat_eq_coe, intText_natCast, sign, whole, nonempty, decimal,
      ne_eq, not_true_eq_false, false_or, Bool.false_eq_true, ↓reduceIte]
    by_cases held : fits n <;> simp [held]
  | negSucc n =>
    obtain ⟨-, whole, nonempty, decimal⟩ := toDigits_read (n + 1)
    have negative : -((n + 1 : Nat) : Int) = Int.negSucc n := rfl
    simp only [getIntOf, intText_negSucc, splitSign, whole, nonempty, decimal, ne_eq,
      not_true_eq_false, false_or, ↓reduceIte, negative]
    by_cases held : fits (Int.negSucc n) <;> simp [held]

/-! ### The object of `getpoladdressstatus` -/

/-- The members `getpoladdressstatus` pushes for a result, in order, without `*_coin`. -/
def addressStatusMembers (r : AddressStatusResult) (level : Int) (levelText : String) :
    List (String × Reply) :=
  let obj := pushKV [] "tip_height" (.num (intText r.tipHeight))
  let obj := pushKV obj "height" (.num (intText r.height))
  let obj := pushKV obj "address" (.str r.address)
  let obj := pushKV obj "miner_tag_hex" (.str r.minerTagHex)
  let obj := pushKV obj "miner_tag_len" (.num (intText r.minerTagLen))
  let obj := pushKV obj "miner_tag_u32" (.num (intText r.minerTagU32.toNat))
  let obj := pushKV obj "extranonce1_size" (.num (intText r.extranonce1Size))
  let obj := pushKV obj "seen" (.bool r.seen)
  let obj := pushKV obj "first_seen_height" (.num (intText r.firstSeenHeight))
  let obj := pushKV obj "last_seen_height" (.num (intText r.lastSeenHeight))
  let obj := pushKV obj "blocks_seen" (.num (intText r.blocksSeen.toNat))
  let obj := pushKV obj "last_seen_time" (.num (intText r.lastSeenTime))
  let obj := pushKV obj "points" (.num (intText r.points))
  let obj := pushKV obj "level" (.num (intText level))
  let obj := pushKV obj "level_text" (.str levelText)
  let obj := pushKV obj "last_seen_month" (.num (intText r.lastSeenMonth))
  let obj := pushKV obj "allowed_subsidy" (.num (intText r.allowedSubsidy))
  let obj := pushKV obj "base_subsidy" (.num (intText r.baseSubsidy))
  pushKV obj "bonus_subsidy" (.num (intText r.bonusSubsidy))

/-- The object `getpoladdressstatus` returns; `none` where the level was undefined. -/
def addressStatusObject (r : AddressStatusResult) : Option Reply := do
  let level ← r.level
  let levelText ← r.levelText
  pure (.obj (addressStatusMembers r level levelText))

/-- The members a wallet page reads from a status object. -/
theorem addressStatusMembers_findValue (r : AddressStatusResult) (level : Int) (levelText : String) :
    let obj := Reply.obj (addressStatusMembers r level levelText)
    obj.findValue "result" = .null ∧ obj.findValue "address" = .str r.address ∧
      obj.findValue "miner_tag_hex" = .str r.minerTagHex ∧ obj.findValue "seen" = .bool r.seen ∧
      obj.findValue "tip_height" = .num (intText r.tipHeight) ∧
      obj.findValue "blocks_seen" = .num (intText r.blocksSeen.toNat) ∧
      obj.findValue "first_seen_height" = .num (intText r.firstSeenHeight) ∧
      obj.findValue "last_seen_height" = .num (intText r.lastSeenHeight) ∧
      obj.findValue "last_seen_time" = .num (intText r.lastSeenTime) ∧
      obj.findValue "points" = .num (intText r.points) ∧
      obj.findValue "level" = .num (intText level) ∧
      obj.findValue "allowed_subsidy" = .num (intText r.allowedSubsidy) ∧
      obj.findValue "base_subsidy" = .num (intText r.baseSubsidy) ∧
      obj.findValue "bonus_subsidy" = .num (intText r.bonusSubsidy) := by
  simp only [addressStatusMembers, findValue_pushKV_self, ne_eq, String.reduceEq,
    not_false_eq_true, findValue_pushKV_ne, and_true]
  rfl

/-! ### An answer's values passed back to `getpolallowedtag` -/

theorem getIntOf_fits {fits : Int → Prop} [DecidablePred fits] {text : String} {value : Int}
    (ok : getIntOf fits text = .ok value) : fits value := by
  unfold getIntOf at ok
  split at ok
  dsimp only at ok
  split_ifs at ok with negative bad bad <;> cases ok <;>
    exact not_not.1 (not_or.1 (not_or.1 bad).2).2

theorem parseHeightFlexible_fits {v : UniValue} {height : Int}
    (parsed : parseHeightFlexible v = .ok height) : FitsInt height := by
  cases v with
  | num text =>
    rw [parseHeightFlexible, getIntInt_eq_getIntOf] at parsed
    exact getIntOf_fits parsed
  | str s =>
    rw [parseHeightFlexible] at parsed
    split_ifs at parsed
    split at parsed
    · cases parsed
    · split_ifs at parsed with differ outside
      cases parsed
      unfold FitsInt
      omega
  | _ => cases parsed

/-- The decimal text of a height is a height string as `ParseHeightFlexible` reads it. -/
theorem heightText_intText (n : Nat) : HeightText (intText n).data n := by
  obtain ⟨-, -, nonempty, decimal⟩ := toDigits_read n
  refine ⟨[], [], Nat.toDigits 10 n, rfl, by simp, Or.inl rfl, nonempty,
    (toDigitsCore_digits (n + 1) n (Nat.lt_succ_self n)).2.1, ?_⟩
  rw [decimal]
  simp

/-- `ParseHeightFlexible` reads back `setInt`'s text of an `int` height. -/
theorem parseHeightFlexible_intText (height : Int) (nonneg : 0 ≤ height)
    (fits : height ≤ 2147483647) :
    parseHeightFlexible (.num (intText height)) = .ok height ∧
      parseHeightFlexible (.str (intText height)) = .ok height := by
  obtain ⟨n, rfl⟩ := Int.eq_ofNat_of_zero_le nonneg
  refine ⟨?_, ?_⟩
  · rw [parseHeightFlexible, getIntInt_eq_getIntOf, getIntOf_intText,
      if_pos (show FitsInt (n : Int) by unfold FitsInt; omega)]
  · rw [parseHeightFlexible_str_of_stoll
      (stoll_of_heightText (heightText_intText n) (by unfold FitsInt64; omega)),
      if_neg (by omega)]

/-- What a successful answer reports of its height and its tag. -/
theorem getpoladdressstatus_heightTag {getBlockSubsidy : Int → Int} {args : PolArgs}
    {tipHeight : Int} {params : List UniValue} {statusRead allowedRead : TagState}
    {r : AddressStatusResult}
    (ok : getpoladdressstatus getBlockSubsidy args tipHeight params statusRead allowedRead =
      .ok r) (tipFits : FitsInt tipHeight) :
    0 ≤ r.height ∧ r.height ≤ 2147483647 ∧
      r.minerTagHex = hexStr (tag12FromAddressString r.address) := by
  unfold getpoladdressstatus at ok
  obtain ⟨addressIn, -, ok⟩ := Except.bind_eq_ok ok
  obtain ⟨height, parsed, ok⟩ := Except.bind_eq_ok ok
  cases ok
  have fits : FitsInt height := by
    split at parsed
    · exact parseHeightFlexible_fits parsed
    · cases parsed
      exact tipFits
  unfold FitsInt at fits
  refine ⟨?_, ?_, rfl⟩ <;> dsimp only <;> split_ifs <;> omega

/-- An answer's tag and decimal height make `getpolallowedtag` report its allowed subsidy. -/
theorem getpolallowedtag_of_addressStatus (help help' : String) (getBlockSubsidy : Int → Int)
    (args : PolArgs) (tipHeight : Int) (params : List UniValue) (state : TagState)
    (r : AddressStatusResult)
    (respond : getpoladdressstatusRequest help getBlockSubsidy args tipHeight params state state =
      .ok r)
    (tipFits : FitsInt tipHeight) (tip : Int) :
    getpolallowedtagRequest help' getBlockSubsidy state tip
        [.str r.minerTagHex, .str (intText r.height)] =
      .ok { tipHeight := tip, height := r.height, minerTagHex := r.minerTagHex, minerTagLen := 12
            allowedSubsidy := r.allowedSubsidy } := by
  have answered := getpoladdressstatusRequest_ok respond
  obtain ⟨-, allowed, -⟩ := getpoladdressstatus_ok answered
  obtain ⟨nonneg, fits, tagHex⟩ := getpoladdressstatus_heightTag answered tipFits
  have parsed : parseMinerTagHex r.minerTagHex = .ok (tag12FromAddressString r.address) := by
    rw [tagHex]
    refine parseMinerTagHex_of_caseVariant
      (Or.inr (Or.inr (length_tag12FromAddressString r.address))) ?_
    exact List.forall₂_same.2 fun _ _ => Or.inl rfl
  rw [getpolallowedtagRequest, handleRequest_of_pass help' _
      ((getpolallowedtagArgs_pass _).2 ⟨_, .inr (.inr ⟨_, rfl⟩)⟩),
    getpolallowedtag_of_parse parsed, if_pos (show 0 < [UniValue.str (intText r.height)].length
      from Nat.one_pos), List.getD_cons_zero,
    (parseHeightFlexible_intText r.height nonneg fits).2, length_tag12FromAddressString, allowed]
  rfl

/-- The answer for the address `a` on the empty ledger, its height passed back. -/
theorem getpolallowedtag_of_addressStatus_heightString :
    ∃ r, getpoladdressstatusRequest "" (fun _ => 25 * COIN) {} 1 [.str "a"] TagState.empty
        TagState.empty = .ok r ∧ FitsInt 1 ∧
      getpolallowedtagRequest "" (fun _ => 25 * COIN) TagState.empty 7
          [.str r.minerTagHex, .str (intText r.height)] =
        .ok { tipHeight := 7, height := r.height, minerTagHex := r.minerTagHex, minerTagLen := 12
              allowedSubsidy := r.allowedSubsidy } := by
  obtain ⟨r, respond⟩ : ∃ r, getpoladdressstatusRequest "" (fun _ => 25 * COIN) {} 1 [.str "a"]
      TagState.empty TagState.empty = .ok r := ⟨_, rfl⟩
  have tipFits : FitsInt 1 := by decide
  exact ⟨r, respond, tipFits, getpolallowedtag_of_addressStatus "" "" _ {} 1 [.str "a"]
    TagState.empty r respond tipFits 7⟩

end Multiflex.Pol
