/-
This file models the PoL RPC commands' parameter checks and `getpolallowedtag`.
-/

import MultiflexPol.Subsidy

namespace Multiflex.Pol

/-- A JSON value as `UniValue` holds it; a number keeps its text. -/
inductive UniValue
  | null
  | bool (value : Bool)
  | num (text : String)
  | str (value : String)
  | arr
  | obj
deriving DecidableEq, Repr

/-- What a handler throws: a `JSONRPCError` or a `std::runtime_error`. -/
inductive RpcException
  | jsonRpc (code : Int) (message : String)
  | runtime (message : String)
deriving DecidableEq, Repr

def RPC_INVALID_PARAMETER : Int := -8

/-- Modelled from the spec: `uvTypeName` of the inherited JSON library. -/
def UniValue.typeName : UniValue → String
  | .null => "null"
  | .bool _ => "bool"
  | .num _ => "number"
  | .str _ => "string"
  | .arr => "array"
  | .obj => "object"

/-- Modelled from the spec: `UniValue::get_str`, throwing unless the value is a string. -/
def UniValue.getStr : UniValue → Except RpcException String
  | .str value => .ok value
  | v => .error (.runtime ("JSON value of type " ++ v.typeName ++ " is not of expected type string"))

/-- The value of a list of decimal digits. -/
def decimalValue (digits : List Char) : Nat :=
  digits.foldl (fun value c => 10 * value + (c.toNat - '0'.toNat)) 0

/-- Modelled from the spec: `UniValue::getInt<int>`, `std::from_chars` over the whole number. -/
def getIntInt (text : String) : Except RpcException Int :=
  let (negative, rest) := match text.toList with
    | '-' :: rest => (true, rest)
    | rest => (false, rest)
  let digits := rest.takeWhile Char.isDigit
  let value : Int := if negative then -(decimalValue digits : Int) else decimalValue digits
  if digits = [] ∨ digits.length ≠ rest.length ∨ ¬ FitsInt value then
    .error (.runtime "JSON integer out of range")
  else .ok value

/-- `isspace` in the C locale: space and `\t` to `\r`. -/
def isSpace (c : Char) : Bool := c.toNat = 32 || (9 ≤ c.toNat && c.toNat ≤ 13)

/-- `std::stoll(s, &idx, 10)`: the value and characters read, `none` where it throws. -/
def stoll (s : List Char) : Option (Int × Nat) :=
  let blanks := s.takeWhile isSpace
  let (sign, signLength, rest) : Int × Nat × List Char :=
    match s.drop blanks.length with
    | '-' :: rest => (-1, 1, rest)
    | '+' :: rest => (1, 1, rest)
    | rest => (1, 0, rest)
  let digits := rest.takeWhile Char.isDigit
  let value := sign * decimalValue digits
  if digits = [] ∨ ¬ FitsInt64 value then none
  else some (value, blanks.length + signLength + digits.length)

/-- `ParseHeightFlexible`; `stoll` reads ASCII, so counting characters agrees with `s.size()`. -/
def parseHeightFlexible : UniValue → Except RpcException Int
  | .num text => getIntInt text
  | .str s =>
    if s.isEmpty then .error (.jsonRpc RPC_INVALID_PARAMETER "height must be a number")
    else
      match stoll s.toList with
      | none => .error (.jsonRpc RPC_INVALID_PARAMETER "height must be a number")
      | some (x, idx) =>
        if idx ≠ s.length then .error (.jsonRpc RPC_INVALID_PARAMETER "height must be a number")
        else if x < 0 ∨ x > 2147483647 then
          .error (.jsonRpc RPC_INVALID_PARAMETER "height out of range")
        else .ok x
  | _ => .error (.jsonRpc RPC_INVALID_PARAMETER "height must be a number")

/-- Modelled from the spec: `IsHex`, an even, non-zero number of hex digits. -/
def isHex (s : String) : Bool :=
  s.toList.all (fun c => (hexDigit c).isSome) && 0 < s.utf8ByteSize && s.utf8ByteSize % 2 = 0

/-- Modelled from the spec: `TryParseHex`, skipping white space between bytes. -/
def parseHexChars : List Char → Option Bytes
  | [] => some []
  | [c] => if isSpace c then some [] else none
  | c :: c2 :: rest =>
    if isSpace c then parseHexChars (c2 :: rest)
    else
      match hexDigit c, hexDigit c2 with
      | some high, some low => (parseHexChars rest).map (UInt8.ofNat (high * 16 + low) :: ·)
      | _, _ => none

/-- Modelled from the spec: `ParseHex`, empty where `TryParseHex` fails. -/
def parseHex (s : String) : Bytes := (parseHexChars s.toList).getD []

def parseMinerTagHex (tagHex : String) : Except RpcException Bytes :=
  let n := tagHex.utf8ByteSize
  if ¬ (n = 8 ∨ n = 16 ∨ n = 24) then
    .error (.jsonRpc RPC_INVALID_PARAMETER
      "miner_tag_hex must be 4, 8 or 12 bytes (8/16/24 hex chars)")
  else if !isHex tagHex then .error (.jsonRpc RPC_INVALID_PARAMETER "miner_tag_hex must be hex")
  else .ok (parseHex tagHex)

/-- The numeric fields of the `getpolallowedtag` result. -/
structure AllowedTagResult where
  tipHeight : Int
  height : Int
  minerTagHex : String
  minerTagLen : Int
  allowedSubsidy : Int
deriving DecidableEq, Repr

/-- The `getpolallowedtag` handler, for the tip height it reads under `cs_main`. -/
def getpolallowedtag (getBlockSubsidy : Int → Int) (state : TagState) (tip : Int)
    (params : List UniValue) : Except RpcException AllowedTagResult := do
  let tagHex ← (params.getD 0 .null).getStr
  let tag ← parseMinerTagHex tagHex
  let height ← if params.length > 1 then parseHeightFlexible (params.getD 1 .null)
    else pure (tip + 1)
  let allowed := getAllowedSubsidy getBlockSubsidy state tag height
  pure { tipHeight := tip, height, minerTagHex := tagHex, minerTagLen := tag.length,
         allowedSubsidy := allowed }

/-! ### The checks of the inherited `RPCHelpMan`, outside this tree -/

def RPC_TYPE_ERROR : Int := -3

/-- The `RPCArg::Type`s the PoL commands declare. -/
inductive RPCArgType
  | STR
  | STR_HEX
deriving DecidableEq, Repr

/-- `uvTypeName` of the JSON type `ExpectedType` gives an argument of this type. -/
def RPCArgType.expectedTypeName : RPCArgType → String
  | .STR => "string"
  | .STR_HEX => "string"

/-- An `RPCArg`: its names, its type and whether it may be omitted. -/
structure RPCArg where
  names : String
  type : RPCArgType
  optional : Bool

/-- `RPCArg::MatchesType` of the inherited RPC layer: `none` for a match, else the mismatch. -/
def RPCArg.matchesType (arg : RPCArg) (value : UniValue) : Option String :=
  if arg.optional && value == .null then none
  else if value.typeName = arg.type.expectedTypeName then none
  else some ("JSON value of type " ++ value.typeName ++ " is not of expected type " ++
    arg.type.expectedTypeName)

/-- `RPCHelpMan::IsValidNumArgs` of the inherited RPC layer. -/
def isValidNumArgs (args : List RPCArg) (count : Nat) : Bool :=
  args.length - (args.reverse.takeWhile (·.optional)).length ≤ count && count ≤ args.length

/-- `UniValue::write(4)` of an object of strings that need no escapes. -/
def writeStringObject (members : List (String × String)) : String :=
  "\x7b\n" ++ String.intercalate ",\n" (members.map fun member =>
    "    \"" ++ member.1 ++ "\": \"" ++ member.2 ++ "\"") ++ "\n\x7d"

/-- The mismatches `HandleRequest` collects, keyed by position and names. -/
def argMismatches (args : List RPCArg) (params : List UniValue) : List (String × String) :=
  args.enum.filterMap fun (i, arg) => (arg.matchesType (params.getD i .null)).map fun text =>
    ("Position " ++ toString (i + 1) ++ " (" ++ arg.names ++ ")", text)

/-- `RPCHelpMan::HandleRequest` of the inherited RPC layer, for a call; `help` is its help text. -/
def handleRequest {α : Type} (help : String) (args : List RPCArg) (params : List UniValue)
    (handler : List UniValue → Except RpcException α) : Except RpcException α :=
  if !isValidNumArgs args params.length then .error (.runtime help)
  else if (argMismatches args params).isEmpty then handler params
  else .error (.jsonRpc RPC_TYPE_ERROR
    ("Wrong type passed:\n" ++ writeStringObject (argMismatches args params)))

def getpolallowedtagArgs : List RPCArg :=
  [⟨"miner_tag_hex", .STR_HEX, false⟩, ⟨"height", .STR, true⟩]

/-- A `getpolallowedtag` call through `RPCHelpMan::HandleRequest`. -/
def getpolallowedtagRequest (help : String) (getBlockSubsidy : Int → Int) (state : TagState)
    (tip : Int) (params : List UniValue) : Except RpcException AllowedTagResult :=
  handleRequest help getpolallowedtagArgs params (getpolallowedtag getBlockSubsidy state tip)

theorem Except.bind_eq_ok {ε α β : Type} {x : Except ε α} {f : α → Except ε β} {b : β}
    (ok : x >>= f = .ok b) : ∃ a, x = .ok a ∧ f a = .ok b := by
  cases x with
  | error e => cases ok
  | ok a => exact ⟨a, rfl, ok⟩

theorem handleRequest_eq_ok {α : Type} {help : String} {args : List RPCArg}
    {params : List UniValue} {handler : List UniValue → Except RpcException α} {r : α} :
    handleRequest help args params handler = .ok r ↔
      (isValidNumArgs args params.length = true ∧ argMismatches args params = []) ∧
        handler params = .ok r := by
  unfold handleRequest
  cases isValidNumArgs args params.length <;> cases mismatches : argMismatches args params <;>
    simp

theorem handleRequest_of_pass {α : Type} (help : String) {args : List RPCArg}
    {params : List UniValue} (handler : List UniValue → Except RpcException α)
    (pass : isValidNumArgs args params.length = true ∧ argMismatches args params = []) :
    handleRequest help args params handler = handler params := by
  simp [handleRequest, pass]

/-- A string-typed argument matches a string, and null where it may be omitted. -/
theorem matchesType_eq_none (arg : RPCArg) (value : UniValue) :
    arg.matchesType value = none ↔ arg.optional = true ∧ value = .null ∨ ∃ s, value = .str s := by
  have expected : arg.type.expectedTypeName = "string" := by cases arg.type <;> rfl
  unfold RPCArg.matchesType
  rw [expected]
  cases value <;> cases arg.optional <;> simp [UniValue.typeName]

/-- A required and an optional string pass for a string, then nothing, null or a string. -/
theorem stringArgs_pass (names names' : String) (type type' : RPCArgType) (params : List UniValue) :
    (isValidNumArgs [⟨names, type, false⟩, ⟨names', type', true⟩] params.length = true ∧
      argMismatches [⟨names, type, false⟩, ⟨names', type', true⟩] params = []) ↔
    ∃ s, params = [.str s] ∨ params = [.str s, .null] ∨ ∃ t, params = [.str s, .str t] := by
  have matching : argMismatches [⟨names, type, false⟩, ⟨names', type', true⟩] params = [] ↔
      (∃ s, params.getD 0 .null = .str s) ∧
        (params.getD 1 .null = .null ∨ ∃ t, params.getD 1 .null = .str t) := by
    simp only [argMismatches, List.filterMap_eq_nil_iff, List.enum, List.enumFrom,
      List.mem_cons, List.mem_singleton, List.not_mem_nil, or_false, forall_eq_or_imp,
      forall_eq, Option.map_eq_none', matchesType_eq_none, Bool.false_eq_true, false_and,
      false_or, true_and, Nat.zero_add]
  rw [matching]
  rcases params with _ | ⟨first, _ | ⟨second, _ | ⟨third, rest⟩⟩⟩ <;>
    simp [isValidNumArgs, ← and_or_left, exists_and_right]

theorem getpolallowedtagArgs_pass (params : List UniValue) :
    (isValidNumArgs getpolallowedtagArgs params.length = true ∧
      argMismatches getpolallowedtagArgs params = []) ↔
    ∃ s, params = [.str s] ∨ params = [.str s, .null] ∨ ∃ t, params = [.str s, .str t] :=
  stringArgs_pass _ _ _ _ params

end Multiflex.Pol
