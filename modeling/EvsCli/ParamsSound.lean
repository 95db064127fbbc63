import EvsCli.Params

/-!
# What the argument parser builds

For arguments given as `--name value` pairs, `parse_params` reads each input's
value from right after its flag, so the object it builds does not depend on the
order of the pairs, as long as no value, stripped of its leading dashes, is the
name of another input: the flag search runs over values too. An unsigned-integer array
argument is split at commas and brackets; a signed one is passed on as text.
-/

namespace EvsCli

/-- The arguments `--n₁ v₁ --n₂ v₂ …`, one pair for each input of `order`. -/
def flagPairs (value : String → String) : List Param → List String
  | [] => []
  | i :: order => ("--" ++ i.name) :: value i.name :: flagPairs value order

theorem flagPairs_length (value : String → String) :
    ∀ order : List Param, (flagPairs value order).length = 2 * order.length
  | [] => rfl
  | _ :: order => by simp [flagPairs, flagPairs_length value order]; omega

theorem findParam_flagPairs (value : String → String) (n : String) :
    ∀ order : List Param, (∀ i ∈ order, i.name.toList.head? ≠ some '-') →
      (∀ i ∈ order, i.name ≠ n → trimStartMatches (value i.name) '-' ≠ n) → n ∈ order.map Param.name →
      ∃ rest, findParam n (flagPairs value order) = some (value n :: rest)
  | [], _, _, hn => by simp at hn
  | i :: order, hdash, hval, hn => by
    rw [flagPairs, findParam, trimStartMatches_flag (hdash i (.head _))]
    by_cases h : i.name = n
    · subst h; exact ⟨_, if_pos rfl⟩
    · rw [if_neg h, findParam, if_neg (hval i (.head _) h)]
      have hn' : n ∈ order.map Param.name := by
        simp only [List.map_cons, List.mem_cons] at hn
        exact hn.resolve_left (Ne.symm h)
      exact findParam_flagPairs value n order (fun j hj => hdash j (.tail _ hj))
        (fun j hj => hval j (.tail _ hj)) hn'

section
variable (contractLoad : String → Except String Contract) (convertToken : String → Except String String)

def fillParams (value : String → String) (inputs : List Param) (m : JsonMap) : Except String JsonMap :=
  inputs.foldlM (fun m i => m.insert i.name <$> paramValue convertToken i.kind (value i.name)) m

theorem setParam_of_findParam {paramsVec : List String} {m : JsonMap} {input : Param} {v : String}
    {rest : List String} (h : findParam input.name paramsVec = some (v :: rest)) :
    setParam convertToken paramsVec m input = m.insert input.name <$> paramValue convertToken input.kind v := by
  simp [setParam, paramArgument, h]

theorem foldlM_setParam (paramsVec : List String) (value : String → String) :
    ∀ (inputs : List Param) (m : JsonMap),
      (∀ i ∈ inputs, ∃ rest, findParam i.name paramsVec = some (value i.name :: rest)) →
      inputs.foldlM (setParam convertToken paramsVec) m = fillParams convertToken value inputs m
  | [], _, _ => rfl
  | i :: inputs, m, h => by
    obtain ⟨rest, hi⟩ := h i (.head _)
    simp only [List.foldlM_cons, fillParams, setParam_of_findParam convertToken hi]
    cases paramValue convertToken i.kind (value i.name) with
    | error e => rfl
    | ok j => exact foldlM_setParam paramsVec value inputs _ fun k hk => h k (.tail _ hk)

theorem fillParams_spec (value : String → String) :
    ∀ (inputs : List Param) (m : JsonMap), (inputs.map Param.name).Nodup →
      (∀ i ∈ inputs, ∃ j, paramValue convertToken i.kind (value i.name) = .ok j) →
      ∃ m', fillParams convertToken value inputs m = .ok m' ∧
        (∀ i ∈ inputs, m'.get? i.name = (paramValue convertToken i.kind (value i.name)).toOption) ∧
        ∀ k, k ∉ inputs.map Param.name → m'.get? k = m.get? k
  | [], m, _, _ => ⟨m, rfl, by simp, fun _ _ => rfl⟩
  | i :: inputs, m, hnodup, hconv => by
    obtain ⟨j, hj⟩ := hconv i (.head _)
    rw [List.map_cons, List.nodup_cons] at hnodup
    obtain ⟨m', hrun, hin, hout⟩ :=
      fillParams_spec value inputs (m.insert i.name j) hnodup.2 fun k hk => hconv k (.tail _ hk)
    refine ⟨m', by simpa [fillParams, hj] using hrun, fun k hk => ?_, fun k hk => ?_⟩
    · rcases List.mem_cons.mp hk with rfl | hk
      · simp [hout _ hnodup.1, hj, Except.toOption]
      · exact hin k hk
    · simp only [List.map_cons, List.mem_cons, not_or] at hk
      simp [hout k hk.2, hk.1]

/-- Given as `--name value` pairs in any order, with no value that names another
input once its leading dashes are stripped, the arguments give one and the same object:
its keys are the input names, and each input holds its own value, converted. -/
theorem parseParams_flagPairs (abi method : String) (c : Contract) (fn : AbiFunction)
    (hload : contractLoad abi = .ok c) (hfn : c.functions.lookup method = some fn)
    (value : String → String) (hnodup : (fn.inputs.map Param.name).Nodup)
    (hdash : ∀ i ∈ fn.inputs, i.name.toList.head? ≠ some '-')
    (hval : ∀ i ∈ fn.inputs, ∀ j ∈ fn.inputs, i.name ≠ j.name → trimStartMatches (value i.name) '-' ≠ j.name)
    (hconv : ∀ i ∈ fn.inputs, ∃ j, paramValue convertToken i.kind (value i.name) = .ok j) :
    ∃ m : JsonMap,
      (∀ order : List Param, order.Perm fn.inputs →
        parseParams contractLoad convertToken (flagPairs value order) abi method =
          .ok m.toValue.toJsonString) ∧
      m.keys.Perm (fn.inputs.map Param.name) ∧
      ∀ i ∈ fn.inputs, m.get? i.name = (paramValue convertToken i.kind (value i.name)).toOption := by
  obtain ⟨m, hrun, hin, hout⟩ := fillParams_spec convertToken value fn.inputs .empty hnodup hconv
  refine ⟨m, fun order horder => ?_, ?_, hin⟩
  · have hfind : ∀ i ∈ fn.inputs, ∃ rest,
        findParam i.name (flagPairs value order) = some (value i.name :: rest) := fun i hi =>
      findParam_flagPairs value i.name order (fun j hj => hdash j (horder.subset hj))
        (fun j hj => hval j (horder.subset hj) i hi) ((horder.map Param.name).mem_iff.mpr
          (List.mem_map_of_mem _ hi))
    have hlen : (flagPairs value order).length ≠ 1 := by rw [flagPairs_length]; omega
    rw [parseParams_of_length_ne_one contractLoad convertToken hlen]
    simp [buildJsonFromParams, hload, hfn, foldlM_setParam convertToken _ value _ _ hfind, hrun]
  · refine (List.perm_ext_iff_of_nodup m.keys_nodup hnodup).mpr fun k => ?_
    rw [JsonMap.mem_keys]
    by_cases hk : k ∈ fn.inputs.map Param.name
    · obtain ⟨i, hi, rfl⟩ := List.mem_map.mp hk
      obtain ⟨j, hj⟩ := hconv i hi
      simp [hin i hi, hj, Except.toOption, List.mem_map_of_mem _ hi]
    · simp [hout k hk, hk]

end

/-- An ABI whose function `f` takes two addresses, `a` and `b`. -/
def twoAddressAbi (_ : String) : Except String Contract :=
  .ok ⟨[("f", ⟨[⟨"a", .address⟩, ⟨"b", .address⟩]⟩)]⟩

theorem parseParams_flagPairs_twoAddresses :
    ∃ m : JsonMap,
      (∀ order : List Param, order.Perm [⟨"a", .address⟩, ⟨"b", .address⟩] →
        parseParams twoAddressAbi .ok (flagPairs (fun _ => "0") order) "" "f" =
          .ok m.toValue.toJsonString) ∧
      m.keys.Perm ["a", "b"] ∧
      ∀ i ∈ [Param.mk "a" .address, ⟨"b", .address⟩],
        m.get? i.name = (paramValue .ok i.kind "0").toOption :=
  parseParams_flagPairs twoAddressAbi .ok "" "f" _ ⟨[⟨"a", .address⟩, ⟨"b", .address⟩]⟩ rfl rfl
    (fun _ => "0") (by decide) (by decide) (by decide) fun i hi => by
      simp only [List.mem_cons, List.mem_singleton, List.not_mem_nil, or_false] at hi
      rcases hi with rfl | rfl <;> exact ⟨_, rfl⟩

/-- `a`'s value is `b`: the search for `b`'s flag stops at it and takes `--b` as `b`'s
value, while the same pairs in the other order give each input its own value. -/
theorem parseParams_value_read_as_flag :
    parseParams twoAddressAbi .ok ["--a", "b", "--b", "x"] "" "f" =
        .ok (JsonValue.object [("a", .string "b"), ("b", .string "--b")]).toJsonString ∧
    parseParams twoAddressAbi .ok ["--b", "x", "--a", "b"] "" "f" =
        .ok (JsonValue.object [("a", .string "b"), ("b", .string "x")]).toJsonString :=
  ⟨rfl, rfl⟩

/-! ## Integer arrays -/

section
variable (convertToken : String → Except String String)

/-- An unsigned-integer array argument, its elements joined by commas with or without
brackets, becomes the array of its elements, each converted as a scalar is, in order;
the first element that fails to convert gives the error. -/
theorem paramValue_uint_array (size : Nat) (es : List String)
    (hes : ∀ e ∈ es, e ≠ "" ∧ ',' ∉ e.toList ∧ '[' ∉ e.toList ∧ ']' ∉ e.toList) (value : String)
    (hv : value = "[" ++ String.intercalate "," es ++ "]" ∨ value = String.intercalate "," es) :
    paramValue convertToken (.array (.uint size)) value =
      (fun vs => JsonValue.array (vs.map .string)) <$> es.mapM (parseIntegerParam convertToken) := by
  have hes' : ∀ e ∈ es, e ≠ "" ∧ ∀ c ∈ e.toList, ¬ isArrayDelimiter c := fun e he => by
    obtain ⟨hne, h₁, h₂, h₃⟩ := hes e he
    refine ⟨hne, fun c hc => ?_⟩
    simp only [isArrayDelimiter, Bool.or_eq_true, beq_iff_eq, not_or]
    refine ⟨⟨?_, ?_⟩, ?_⟩ <;> rintro rfl <;> contradiction
  rw [paramValue, parseIntegerPieces_eq]
  rcases hv with rfl | rfl
  · rw [split_bracketed es hes']
  · rw [split_intercalate es hes']

theorem paramValue_uint_array_twoElements :
    paramValue .ok (.array (.uint 8)) "[1,2T]" =
      (fun vs => JsonValue.array (vs.map .string)) <$> ["1", "2T"].mapM (parseIntegerParam .ok) :=
  paramValue_uint_array .ok 8 ["1", "2T"] (by decide) "[1,2T]" (.inl rfl)

end

/-- A signed-integer array argument is passed on as its text, brackets and commas
included, where an unsigned one is split into its elements. -/
theorem paramValue_int_array_unsplit :
    paramValue .ok (.array (.int 256)) "[1,2]" = .ok (.string "[1,2]") ∧
    paramValue .ok (.array (.uint 256)) "[1,2]" = .ok (.array [.string "1", .string "2"]) :=
  ⟨rfl, rfl⟩

end EvsCli
