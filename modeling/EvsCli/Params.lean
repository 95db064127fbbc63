import EvsCli.Json
import EvsCli.Text

/-!
# Call arguments from flag/value pairs

`parse_params` and `build_json_from_params` (call.rs:73-125, 486-493): the
`--name value` arguments of `call` become the JSON object the ABI encoder reads.
The ABI kinds are `ton_abi`'s, trimmed to the fields the parser reads; loading the
ABI text (`Contract::load`) and the token conversion (`convert::convert_token`) are
not among the repository's files and are parameters.
-/

namespace EvsCli

/-! ## ABI -/

/-- `ton_abi::ParamType`. -/
inductive ParamType where
  | unknown
  | uint (size : Nat)
  | int (size : Nat)
  | varUint (size : Nat)
  | varInt (size : Nat)
  | bool
  | tuple (components : List (String × ParamType))
  | array (elem : ParamType)
  | fixedArray (elem : ParamType) (size : Nat)
  | cell
  | map (key value : ParamType)
  | address
  | bytes
  | fixedBytes (size : Nat)
  | string
  | token
  | time
  | expire
  | publicKey
  | optional (inner : ParamType)
  | ref (inner : ParamType)
  deriving Repr

/-- `ParamType::type_signature`, which its `Display` prints. -/
def ParamType.typeSignature : ParamType → String
  | .unknown => "unknown"
  | .uint n => "uint" ++ toString n
  | .int n => "int" ++ toString n
  | .varUint n => "varuint" ++ toString n
  | .varInt n => "varint" ++ toString n
  | .bool => "bool"
  | .tuple cs => "(" ++ ",".intercalate (componentSignatures cs) ++ ")"
  | .array t => t.typeSignature ++ "[]"
  | .fixedArray t n => t.typeSignature ++ "[" ++ toString n ++ "]"
  | .cell => "cell"
  | .map k v => "map(" ++ k.typeSignature ++ "," ++ v.typeSignature ++ ")"
  | .address => "address"
  | .bytes => "bytes"
  | .fixedBytes n => "fixedbytes" ++ toString n
  | .string => "string"
  | .token => "gram"
  | .time => "time"
  | .expire => "expire"
  | .publicKey => "pubkey"
  | .optional t => "optional(" ++ t.typeSignature ++ ")"
  | .ref t => "ref(" ++ t.typeSignature ++ ")"
where
  componentSignatures : List (String × ParamType) → List String
    | [] => []
    | (_, t) :: cs => t.typeSignature :: componentSignatures cs

example : (ParamType.array (.tuple [("a", .uint 8), ("b", .bool)])).typeSignature = "(uint8,bool)[]" := rfl

structure Param where
  name : String
  kind : ParamType
  deriving Repr

/-- `ton_abi::Function`: only its inputs are read. -/
structure AbiFunction where
  inputs : List Param
  deriving Repr

/-- `ton_abi::Contract`: its functions by name. -/
structure Contract where
  functions : List (String × AbiFunction)
  deriving Repr

/-! ## Integer arguments -/

section
variable (convertToken : String → Except String String)

/-- `parse_integer_param` (call.rs:73-81): quotes go, and a trailing `T` asks for
token units. -/
def parseIntegerParam (value : String) : Except String String :=
  let value := trimMatches value '"'
  if endsWith value 'T' then convertToken (trimEndMatches value 'T') else .ok value

/-- The loop of the unsigned-array branch (call.rs:107-111): empty pieces are
skipped, and the first piece that fails to convert ends it. -/
def parseIntegerPieces : List String → Except String (List String)
  | [] => .ok []
  | i :: rest =>
    if i = "" then parseIntegerPieces rest
    else do
      let v ← parseIntegerParam convertToken i
      let vs ← parseIntegerPieces rest
      pure (v :: vs)

/-- The `match input.kind` of `build_json_from_params` (call.rs:100-120). -/
def paramValue (kind : ParamType) (value : String) : Except String JsonValue :=
  match kind with
  | .uint _ | .int _ => JsonValue.string <$> parseIntegerParam convertToken value
  | .array x =>
    match x with
    | .uint _ =>
      (fun vs => JsonValue.array (vs.map .string)) <$>
        parseIntegerPieces convertToken (split value isArrayDelimiter)
    | _ => .ok (.string value)
  | _ => .ok (.string value)

theorem parseIntegerPieces_eq :
    ∀ l : List String,
      parseIntegerPieces convertToken l = (l.filter (· ≠ "")).mapM (parseIntegerParam convertToken)
  | [] => rfl
  | i :: rest => by
    by_cases h : i = ""
    · simp [parseIntegerPieces, h, parseIntegerPieces_eq rest]
    · rw [List.filter_cons_of_pos (by simpa using h), List.mapM_cons, ← parseIntegerPieces_eq rest]
      simp [parseIntegerPieces, h]

end

/-! ## Flags and values -/

/-- `iter.find(|x| x.trim_start_matches('-') == input.name)`: what the iterator still
holds after the first argument that names the input, with or without dashes. -/
def findParam (name : String) : List String → Option (List String)
  | [] => none
  | x :: rest => if trimStartMatches x '-' = name then some rest else findParam name rest

def notFoundError (input : Param) : String :=
  "argument \"" ++ input.name ++ "\" of type \"" ++ input.kind.typeSignature ++ "\" not found"

def noValueError (input : Param) : String :=
  "argument \"" ++ input.name ++ "\" of type \"" ++ input.kind.typeSignature ++ "\" has no value"

/-- The value of an input: the argument right after its flag. -/
def paramArgument (paramsVec : List String) (input : Param) : Except String String :=
  match findParam input.name paramsVec with
  | none => .error (notFoundError input)
  | some [] => .error (noValueError input)
  | some (v :: _) => .ok v

section
variable (contractLoad : String → Except String Contract) (convertToken : String → Except String String)

/-- One turn of the `for input in inputs` loop (call.rs:91-122). -/
def setParam (paramsVec : List String) (paramsJson : JsonMap) (input : Param) :
    Except String JsonMap := do
  let value ← paramArgument paramsVec input
  let value ← paramValue convertToken input.kind value
  pure (paramsJson.insert input.name value)

/-- `build_json_from_params` (call.rs:83-125). `serde_json::to_string` cannot fail on a
`Value` whose keys are strings, so its `map_err` is left out. -/
def buildJsonFromParams (paramsVec : List String) (abi method : String) : Except String String := do
  let abiObj ← (contractLoad abi).mapError ("failed to parse ABI: " ++ ·)
  let funcObj ← match abiObj.functions.lookup method with
    | some f => .ok f
    | none => .error "failed to load function from abi"
  let paramsJson ← funcObj.inputs.foldlM (setParam convertToken paramsVec) JsonMap.empty
  pure paramsJson.toValue.toJsonString

/-- `parse_params` (call.rs:486-493): a single argument is the JSON text itself. -/
def parseParams (paramsVec : List String) (abi method : String) : Except String String :=
  match paramsVec with
  | [p] => .ok p
  | _ => buildJsonFromParams contractLoad convertToken paramsVec abi method

theorem parseParams_of_length_ne_one {paramsVec : List String} (h : paramsVec.length ≠ 1)
    (abi method : String) :
    parseParams contractLoad convertToken paramsVec abi method =
      buildJsonFromParams contractLoad convertToken paramsVec abi method :=
  match paramsVec, h with
  | [], _ => rfl
  | [_], h => absurd rfl h
  | _ :: _ :: _, _ => rfl

end

end EvsCli
