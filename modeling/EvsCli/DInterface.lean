import EvsCli.Json

/-!
# Arguments of DeBot interface calls

`dinterface.rs` decodes the arguments a DeBot passes to a browser interface: a JSON
object whose members are read by name (`decode_arg`, `decode_bool_arg`,
`decode_array`, ...), and the `answerId` every call carries, a `u32` written in
decimal. `BrowserInterface` answers a call from the manifest when the manifest has
the input, and hands it to the wrapped interface otherwise.

`u32::from_str_radix` is modelled as Rust's core library computes it; the other
library decoders (`hex::decode`, `str::from_utf8`, `decode_abi_number`,
`decode_abi_bigint`) are parameters. The definitions bear the names of the
functions they model, in dinterface.rs: `decodeAnswerId` 119-127, `decodeArg`
129-134, `decodeBoolArg` 136-140, `decodeStringArg` 142-148, `decodePrompt`
150-152, `decodeNumArg` 154-161, `decodeInt256` 163-167, `decodeArray` 169-179,
`browserInterfaceCall` 108-117.
-/

namespace EvsCli

/-! ## serde_json accessors -/

/-- `args[name]` (serde_json's `Index<&str>`): the member of an object, `Null` otherwise. -/
def JsonValue.index (v : JsonValue) (name : String) : JsonValue :=
  match v with
  | .object members => (members.lookup name).getD .null
  | _ => .null

def JsonValue.asStr : JsonValue → Option String
  | .string s => some s
  | _ => none

def JsonValue.asBool : JsonValue → Option Bool
  | .bool b => some b
  | _ => none

def JsonValue.asArray : JsonValue → Option (List JsonValue)
  | .array elems => some elems
  | _ => none

@[simp] theorem JsonMap.index_toValue (m : JsonMap) (name : String) :
    m.toValue.index name = (m.get? name).getD .null := rfl

def okOr {α ε : Type} (o : Option α) (e : ε) : Except ε α :=
  match o with
  | some a => .ok a
  | none => .error e

section
variable {α ε : Type}

@[simp] theorem okOr_some (a : α) (e : ε) : okOr (some a) e = .ok a := rfl
@[simp] theorem okOr_none (e : ε) : okOr (none : Option α) e = .error e := rfl

end

/-! ## Members read by name -/

/-- The shape of `decode_arg` and `decode_bool_arg`: read the member `name` with an
accessor, or report it missing. -/
def decodeWith {α : Type} (get : JsonValue → Option α) (args : JsonValue) (name : String) :
    Except String α :=
  okOr (get (args.index name)) ("\"" ++ name ++ "\" not found")

def decodeArg (args : JsonValue) (name : String) : Except String String :=
  decodeWith JsonValue.asStr args name

def decodeBoolArg (args : JsonValue) (name : String) : Except String Bool :=
  decodeWith JsonValue.asBool args name

section
variable (hexDecode : String → Except String (List UInt8)) (fromUtf8 : List UInt8 → Except String String)

def decodeStringArg (args : JsonValue) (name : String) : Except String String := do
  let bytes ← hexDecode (← decodeArg args name)
  fromUtf8 bytes

def decodePrompt (args : JsonValue) : Except String String :=
  decodeStringArg hexDecode fromUtf8 args "prompt"

end

/-- The shape of `decode_num_arg` and `decode_int256`: a number written as a string,
decoded by a library function whose error is quoted with the input. -/
def decodeNumber {α : Type} (decode : String → Except String α) (verb : String) (args : JsonValue)
    (name : String) : Except String α := do
  let numStr ← decodeArg args name
  (decode numStr).mapError fun e => "failed to " ++ verb ++ " integer \"" ++ numStr ++ "\": " ++ e

def decodeNumArg {α : Type} (decodeAbiNumber : String → Except String α) (args : JsonValue)
    (name : String) : Except String α :=
  decodeNumber decodeAbiNumber "parse" args name

def decodeInt256 (decodeAbiBigint : String → Except String Int) (args : JsonValue) (name : String) :
    Except String Int :=
  decodeNumber decodeAbiBigint "decode" args name

/-! ## Arrays -/

-- the loop of `decode_array`: each element in turn is validated and pushed on `strings`
def decodeElems {α : Type} (validator : JsonValue → Option α) :
    List JsonValue → List α → Except String (List α)
  | [], strings => .ok strings
  | elem :: rest, strings => do
    let x ← okOr (validator elem) "invalid array element type"
    decodeElems validator rest (strings ++ [x])

def decodeArray {α : Type} (args : JsonValue) (name : String) (validator : JsonValue → Option α) :
    Except String (List α) := do
  let array ← okOr (args.index name).asArray ("\"" ++ name ++ "\" is invalid: must be array")
  decodeElems validator array []

/-- The loop pushes the validated elements in order, and stops at the first one the
validator rejects. -/
theorem decodeElems_eq {α : Type} (validator : JsonValue → Option α) :
    ∀ (elems : List JsonValue) (strings : List α),
      decodeElems validator elems strings =
        (strings ++ ·) <$> okOr (elems.mapM validator) "invalid array element type"
  | [], strings => by
    simp only [decodeElems, List.mapM_nil, Option.pure_def, okOr_some, except_map_ok, List.append_nil]
  | elem :: rest, strings => by
    rw [decodeElems, List.mapM_cons]
    cases hv : validator elem with
    | none => rfl
    | some x =>
      rw [okOr_some, except_ok_bind, decodeElems_eq validator rest]
      cases hr : rest.mapM validator <;> simp [hr]

theorem decodeArray_eq_ok {α : Type} {args : JsonValue} {name : String}
    {validator : JsonValue → Option α} {xs : List α} :
    decodeArray args name validator = .ok xs ↔
      ∃ elems, args.index name = .array elems ∧ elems.mapM validator = some xs := by
  unfold decodeArray
  cases ha : args.index name with
  | array elems =>
    simp only [JsonValue.asArray, okOr_some, except_ok_bind, decodeElems_eq, JsonValue.array.injEq,
      exists_eq_left']
    cases elems.mapM validator <;> simp
  | _ => simp [JsonValue.asArray]

/-! ## `answerId` -/

/-- The kinds of `ParseIntError` an unsigned parse reports. -/
inductive IntErrorKind where
  | empty
  | invalidDigit
  | posOverflow
  deriving Repr, DecidableEq

def IntErrorKind.description : IntErrorKind → String
  | .empty => "cannot parse integer from empty string"
  | .invalidDigit => "invalid digit found in string"
  | .posOverflow => "number too large to fit in target type"

def digitValue (c : Char) : Nat := c.toNat - 48

def decimalStep (acc : Nat) (c : Char) : Nat := acc * 10 + digitValue c

/-- The digit loop of `from_str_radix` for `u32` in radix 10: each character must be a
digit, and the value must stay below `UInt32.size`. -/
def parseDigits : List Char → Nat → Except IntErrorKind Nat
  | [], acc => .ok acc
  | c :: cs, acc =>
    if c.isDigit then
      if decimalStep acc c < UInt32.size then parseDigits cs (decimalStep acc c) else .error .posOverflow
    else .error .invalidDigit

/-- `u32::from_str_radix(src, 10)`: one leading `+` is allowed, a lone sign is not. -/
def fromStrRadix (src : String) : Except IntErrorKind UInt32 :=
  match src.toList with
  | [] => .error .empty
  | c :: rest =>
    if (c = '+' ∨ c = '-') ∧ rest = [] then .error .invalidDigit
    else UInt32.ofNat <$> parseDigits (if c = '+' then rest else c :: rest) 0

def decodeAnswerId (args : JsonValue) : Except String UInt32 := do
  let src ← okOr (args.index "answerId").asStr "answer id not found in argument list"
  (fromStrRadix src).mapError IntErrorKind.description

theorem digitChar_digit : ∀ d < 10, (Nat.digitChar d).isDigit ∧ digitValue (Nat.digitChar d) = d := by
  decide

theorem le_foldl_decimalStep : ∀ (L : List Char) (acc : Nat), acc ≤ L.foldl decimalStep acc
  | [], _ => le_rfl
  | c :: cs, acc => (Nat.le_mul_of_pos_right acc (by decide)).trans
      ((Nat.le_add_right _ _).trans (le_foldl_decimalStep cs (decimalStep acc c)))

theorem toDigitsCore_succ (f n : Nat) (ds : List Char) :
    Nat.toDigitsCore 10 (f + 1) n ds =
      if n / 10 = 0 then Nat.digitChar (n % 10) :: ds
      else Nat.toDigitsCore 10 f (n / 10) (Nat.digitChar (n % 10) :: ds) := rfl

theorem toDigitsCore_digits :
    ∀ (f n : Nat) (ds : List Char), n < f →
      ∃ L, Nat.toDigitsCore 10 f n ds = L ++ ds ∧ L ≠ [] ∧ (∀ c ∈ L, c.isDigit) ∧
        L.foldl decimalStep 0 = n
  | 0, _, _, h => absurd h (Nat.not_lt_zero _)
  | f + 1, n, ds, h => by
    obtain ⟨hd, hv⟩ := digitChar_digit (n % 10) (Nat.mod_lt _ (by decide))
    by_cases hq : n / 10 = 0
    · refine ⟨[Nat.digitChar (n % 10)], by simp [toDigitsCore_succ, hq], by simp, List.forall_mem_singleton.mpr hd, ?_⟩
      simp only [List.foldl, decimalStep, hv]
      omega
    · obtain ⟨L, hL, hne, hdig, hval⟩ := toDigitsCore_digits f (n / 10) (Nat.digitChar (n % 10) :: ds) (by omega)
      refine ⟨L ++ [Nat.digitChar (n % 10)], by simp [toDigitsCore_succ, hq, hL], by simp,
        List.forall_mem_append.mpr ⟨hdig, List.forall_mem_singleton.mpr hd⟩, ?_⟩
      rw [List.foldl_append, hval]
      simp only [List.foldl, decimalStep, hv]
      omega

theorem parseDigits_of_digits :
    ∀ (L : List Char) (acc : Nat), (∀ c ∈ L, c.isDigit) → L.foldl decimalStep acc < UInt32.size →
      parseDigits L acc = .ok (L.foldl decimalStep acc)
  | [], _, _, _ => rfl
  | c :: cs, acc, hd, hlt => by
    have hc : decimalStep acc c < UInt32.size := (le_foldl_decimalStep cs _).trans_lt hlt
    rw [parseDigits, if_pos (hd c (List.mem_cons_self _ _)), if_pos hc]
    exact parseDigits_of_digits cs _ (fun c' h => hd c' (List.mem_cons_of_mem _ h)) hlt

theorem parseDigits_eq_ok :
    ∀ {L : List Char} {acc m : Nat}, parseDigits L acc = .ok m → acc < UInt32.size →
      (∀ c ∈ L, c.isDigit) ∧ L.foldl decimalStep acc = m ∧ m < UInt32.size
  | [], _, _, h, hacc => by cases h; exact ⟨by simp, rfl, hacc⟩
  | c :: cs, acc, m, h, _ => by
    simp only [parseDigits] at h
    split at h
    · split at h
      · obtain ⟨hd, hv, hm⟩ := parseDigits_eq_ok h ‹_›
        exact ⟨List.forall_mem_cons.mpr ⟨‹_›, hd⟩, hv, hm⟩
      · cases h
    · cases h

/-- Decimal text as Rust's `Display` writes a `u32` is read back as that number. -/
theorem fromStrRadix_toString (n : UInt32) : fromStrRadix (toString n) = .ok n := by
  obtain ⟨L, hL, hne, hdig, hval⟩ := toDigitsCore_digits (n.toNat + 1) n.toNat [] (Nat.lt_succ_self _)
  have hs : (toString n).toList = L := by
    simpa using hL
  have hparse := parseDigits_of_digits L 0 hdig (hval ▸ n.toNat_lt_size)
  obtain ⟨c, rest, rfl⟩ := List.exists_cons_of_ne_nil hne
  have hc := hdig c (List.mem_cons_self _ _)
  have hplus : c ≠ '+' := by rintro rfl; exact absurd hc (by decide)
  have hminus : c ≠ '-' := by rintro rfl; exact absurd hc (by decide)
  simp only [fromStrRadix, hs]
  rw [if_neg (by simp [hplus, hminus]), if_neg hplus, hparse, hval]
  exact congrArg Except.ok (UInt32.toNat.inj (UInt32.toNat_ofNat_of_lt n.toNat_lt_size))

/-- What `from_str_radix` accepts is well formed: an optional `+` and a non-empty run
of decimal digits whose value is the result. -/
theorem fromStrRadix_eq_ok {src : String} {n : UInt32} (h : fromStrRadix src = .ok n) :
    ∃ L, (src.toList = L ∨ src.toList = '+' :: L) ∧ L ≠ [] ∧ (∀ c ∈ L, c.isDigit) ∧
      L.foldl decimalStep 0 = n.toNat := by
  unfold fromStrRadix at h
  split at h
  · cases h
  · next c rest hsrc =>
    split at h
    · cases h
    · next hsign =>
      cases hp : parseDigits (if c = '+' then rest else c :: rest) 0 with
      | error e => simp [hp] at h
      | ok m =>
        simp only [hp, except_map_ok, Except.ok.injEq] at h
        obtain ⟨hd, hv, hm⟩ := parseDigits_eq_ok hp (by decide)
        have hn : n.toNat = m := by rw [← h]; exact UInt32.toNat_ofNat_of_lt hm
        by_cases hplus : c = '+'
        · subst hplus
          have hrest : rest ≠ [] := fun hr => hsign ⟨.inl rfl, hr⟩
          rw [if_pos rfl] at hd hv
          exact ⟨rest, .inr hsrc, hrest, hd, hv.trans hn.symm⟩
        · rw [if_neg hplus] at hd hv
          exact ⟨c :: rest, .inl hsrc, List.cons_ne_nil _ _, hd, hv.trans hn.symm⟩

/-- The engine's `answerId`, written as Rust writes a `u32`, is decoded as that number. -/
theorem decodeAnswerId_insert (m : JsonMap) (n : UInt32) :
    decodeAnswerId (m.insert "answerId" (.string (toString n))).toValue = .ok n := by
  simp [decodeAnswerId, JsonValue.asStr, fromStrRadix_toString]

/-- `decode_answer_id` accepts only an `answerId` string made of an optional `+` and
decimal digits, and returns their value. -/
theorem decodeAnswerId_eq_ok {args : JsonValue} {n : UInt32} (h : decodeAnswerId args = .ok n) :
    ∃ src L, args.index "answerId" = .string src ∧ (src.toList = L ∨ src.toList = '+' :: L) ∧
      L ≠ [] ∧ (∀ c ∈ L, c.isDigit) ∧ L.foldl decimalStep 0 = n.toNat := by
  unfold decodeAnswerId at h
  cases hs : args.index "answerId" with
  | string src =>
    simp only [hs, JsonValue.asStr, okOr_some, except_ok_bind] at h
    cases hp : fromStrRadix src with
    | error e => simp [hp] at h
    | ok m =>
      simp only [hp, except_mapError_ok, Except.ok.injEq] at h
      subst h
      obtain ⟨L, hL⟩ := fromStrRadix_eq_ok hp
      exact ⟨src, L, rfl, hL⟩
  | _ => simp [hs, JsonValue.asStr] at h

theorem decodeAnswerId_eq_ok_plusSeven :
    decodeAnswerId (.object [("answerId", .string "+007")]) = .ok 7 ∧
      ∃ src L, JsonValue.index (.object [("answerId", .string "+007")]) "answerId" = .string src ∧
        (src.toList = L ∨ src.toList = '+' :: L) ∧ L ≠ [] ∧ (∀ c ∈ L, c.isDigit) ∧
        L.foldl decimalStep 0 = (7 : UInt32).toNat :=
  ⟨rfl, decodeAnswerId_eq_ok rfl⟩

/-! ## The browser's wrapper -/

/-- What `ManifestProcessor::next_input` answers: the manifest's input, or an error,
of which the browser tells `InterfaceCallNeeded` apart and prints the others with
`{:?}`. -/
inductive ProcessorError where
  | interfaceCallNeeded
  | other (debug : String)
  deriving Repr, DecidableEq

/-- `BrowserInterface::call` (dinterface.rs:108-117): the manifest's answer if it has
one, the wrapped interface's otherwise. -/
def browserInterfaceCall (nextInput : Except ProcessorError (Option JsonValue))
    (innerCall : Except String (UInt32 × JsonValue)) (args : JsonValue) :
    Except String (UInt32 × JsonValue) :=
  match nextInput with
  | .error .interfaceCallNeeded => innerCall
  | .error (.other e) => .error e
  | .ok params => do
    let answerId ← decodeAnswerId args
    pure (answerId, params.getD (.object []))

end EvsCli
