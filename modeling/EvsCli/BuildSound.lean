import EvsCli.ParamsSound

/-!
# What `build_json_from_params` accepts, and what it builds

For any arguments, `build_json_from_params` succeeds exactly when the ABI loads, has
the method, and every input of the method finds its flag followed by a value its kind
accepts. The object it then returns holds, at each input's name, the converted value
of the last input of that name. When it fails, the error is that of the first input,
in the ABI's order, whose value is missing or rejected: its flag not found, no value
after it, or the conversion's own error, which does not name the input.
-/

namespace EvsCli

section
variable (convertToken : String → Except String String)

/-- What one input contributes to the object: its argument, converted as its kind asks. -/
def inputValue (paramsVec : List String) (input : Param) : Except String JsonValue := do
  let value ← paramArgument paramsVec input
  paramValue convertToken input.kind value

/-- The last input named `k`: the one whose value the object keeps. -/
def lastNamed (inputs : List Param) (k : String) : Option Param :=
  inputs.reverse.find? (·.name == k)

theorem lastNamed_cons (i : Param) (inputs : List Param) (k : String) :
    lastNamed (i :: inputs) k = (lastNamed inputs k).or (if i.name = k then some i else none) := by
  by_cases h : i.name = k <;> simp [lastNamed, h]

theorem setParam_eq (paramsVec : List String) (m : JsonMap) (input : Param) :
    setParam convertToken paramsVec m input = m.insert input.name <$> inputValue convertToken paramsVec input := by
  unfold setParam inputValue
  cases paramArgument paramsVec input with
  | error e => rfl
  | ok v => cases paramValue convertToken input.kind v <;> rfl

/-! ## Errors of one input -/

theorem parseIntegerParam_error {value e : String} (h : parseIntegerParam convertToken value = .error e) :
    ∃ t, convertToken t = .error e := by
  unfold parseIntegerParam at h
  dsimp only at h
  split at h
  · exact ⟨_, h⟩
  · cases h

theorem parseIntegerPieces_error :
    ∀ {pieces : List String} {e : String}, parseIntegerPieces convertToken pieces = .error e →
      ∃ t, convertToken t = .error e
  | [], _, h => by cases h
  | i :: rest, e, h => by
    unfold parseIntegerPieces at h
    split at h
    · exact parseIntegerPieces_error h
    · rcases except_bind_eq_error h with hi | ⟨v, -, h⟩
      · exact parseIntegerParam_error convertToken hi
      · rcases except_bind_eq_error h with hr | ⟨vs, -, h⟩
        · exact parseIntegerPieces_error hr
        · cases h

theorem paramValue_error {kind : ParamType} {value e : String}
    (h : paramValue convertToken kind value = .error e) : ∃ t, convertToken t = .error e := by
  unfold paramValue at h
  split at h
  · exact parseIntegerParam_error convertToken (except_map_eq_error.mp h)
  · exact parseIntegerParam_error convertToken (except_map_eq_error.mp h)
  · rename_i x
    cases x
    case uint => exact parseIntegerPieces_error convertToken (except_map_eq_error.mp h)
    all_goals cases h
  · cases h

/-- An input fails because its flag is missing, or has nothing after it, and the error
names the input and its type; or because its value is rejected. -/
theorem inputValue_eq_error {paramsVec : List String} {input : Param} {e : String} :
    inputValue convertToken paramsVec input = .error e ↔
      (findParam input.name paramsVec = none ∧ e = notFoundError input) ∨
      (findParam input.name paramsVec = some [] ∧ e = noValueError input) ∨
      ∃ v rest, findParam input.name paramsVec = some (v :: rest) ∧
        paramValue convertToken input.kind v = .error e := by
  unfold inputValue paramArgument
  rcases findParam input.name paramsVec with _ | _ | ⟨v, rest⟩ <;> simp [eq_comm]

/-! ## The loop -/

/-- After a successful loop every input was accepted, and each key holds the value of
the last input of that name, or what it held before. -/
theorem foldlM_setParam_ok (paramsVec : List String) :
    ∀ {inputs : List Param} {m m' : JsonMap},
      inputs.foldlM (setParam convertToken paramsVec) m = .ok m' →
      (∀ i ∈ inputs, ∃ v, inputValue convertToken paramsVec i = .ok v) ∧
        ∀ k, m'.get? k = (lastNamed inputs k).elim (m.get? k) fun i =>
          (inputValue convertToken paramsVec i).toOption
  | [], m, m', h => by
    cases h
    exact ⟨by simp, fun k => rfl⟩
  | i :: inputs, m, m', h => by
    rw [List.foldlM_cons, setParam_eq] at h
    cases hi : inputValue convertToken paramsVec i with
    | error e => rw [hi] at h; cases h
    | ok v =>
      rw [hi, except_map_ok, except_ok_bind] at h
      obtain ⟨hall, hget⟩ := foldlM_setParam_ok paramsVec h
      refine ⟨List.forall_mem_cons.mpr ⟨⟨v, hi⟩, hall⟩, fun k => ?_⟩
      rw [hget, lastNamed_cons]
      cases lastNamed inputs k with
      | some j => rfl
      | none =>
        by_cases hk : i.name = k
        · subst hk; simp [hi, Except.toOption]
        · simp [hk, Ne.symm hk]

theorem foldlM_setParam_total (paramsVec : List String) :
    ∀ {inputs : List Param} (m : JsonMap), (∀ i ∈ inputs, ∃ v, inputValue convertToken paramsVec i = .ok v) →
      ∃ m', inputs.foldlM (setParam convertToken paramsVec) m = .ok m'
  | [], m, _ => ⟨m, rfl⟩
  | i :: inputs, m, h => by
    obtain ⟨v, hi⟩ := h i (.head _)
    rw [List.foldlM_cons, setParam_eq, hi, except_map_ok, except_ok_bind]
    exact foldlM_setParam_total paramsVec _ fun j hj => h j (.tail _ hj)

theorem exists_first_cons {α : Type} {good bad : α → Prop} {i : α} {l : List α} :
    (∃ pre j post, i :: l = pre ++ j :: post ∧ (∀ k ∈ pre, good k) ∧ bad j) ↔
      bad i ∨ good i ∧ ∃ pre j post, l = pre ++ j :: post ∧ (∀ k ∈ pre, good k) ∧ bad j := by
  constructor
  · rintro ⟨pre, j, post, hp, hpre, hj⟩
    cases pre with
    | nil => cases hp; exact .inl hj
    | cons k pre =>
      obtain ⟨rfl, rfl⟩ := List.cons.inj hp
      exact .inr ⟨hpre _ (.head _), pre, j, post, rfl, fun x hx => hpre x (.tail _ hx), hj⟩
  · rintro (h | ⟨hi, pre, j, post, rfl, hpre, hj⟩)
    · exact ⟨[], i, l, rfl, by simp, h⟩
    · exact ⟨i :: pre, j, post, rfl, List.forall_mem_cons.mpr ⟨hi, hpre⟩, hj⟩

theorem foldlM_setParam_eq_error (paramsVec : List String) :
    ∀ {inputs : List Param} {m : JsonMap} {e : String},
      inputs.foldlM (setParam convertToken paramsVec) m = .error e ↔
        ∃ pre i post, inputs = pre ++ i :: post ∧
          (∀ j ∈ pre, ∃ v, inputValue convertToken paramsVec j = .ok v) ∧
          inputValue convertToken paramsVec i = .error e
  | [], m, e => ⟨fun h => (by cases h), fun ⟨pre, _, _, hp, _⟩ => by simp at hp⟩
  | i :: inputs, m, e => by
    rw [List.foldlM_cons, setParam_eq, exists_first_cons]
    cases hi : inputValue convertToken paramsVec i with
    | error e' => simp
    | ok v => rw [except_map_ok, except_ok_bind, foldlM_setParam_eq_error paramsVec]; simp

end

/-! ## The whole parser -/

section
variable (contractLoad : String → Except String Contract) (convertToken : String → Except String String)
  {paramsVec : List String} {abi method : String}

theorem buildJsonFromParams_of_load_error {e : String} (hc : contractLoad abi = .error e) :
    buildJsonFromParams contractLoad convertToken paramsVec abi method = .error ("failed to parse ABI: " ++ e) := by
  simp [buildJsonFromParams, hc]

theorem buildJsonFromParams_of_lookup_none {c : Contract} (hc : contractLoad abi = .ok c)
    (hf : c.functions.lookup method = none) :
    buildJsonFromParams contractLoad convertToken paramsVec abi method = .error "failed to load function from abi" := by
  simp [buildJsonFromParams, hc, hf]

theorem buildJsonFromParams_of_lookup {c : Contract} {f : AbiFunction} (hc : contractLoad abi = .ok c)
    (hf : c.functions.lookup method = some f) :
    buildJsonFromParams contractLoad convertToken paramsVec abi method =
      (fun m : JsonMap => m.toValue.toJsonString) <$>
        f.inputs.foldlM (setParam convertToken paramsVec) JsonMap.empty := by
  simp only [buildJsonFromParams, hc, hf, except_mapError_ok, except_ok_bind]
  cases f.inputs.foldlM (setParam convertToken paramsVec) JsonMap.empty <;> rfl

/-- `build_json_from_params` succeeds exactly when the ABI loads, has the method, and
every input of the method is accepted; its object holds, at each name, the value of
the last input of that name. -/
theorem buildJsonFromParams_eq_ok {s : String} :
    buildJsonFromParams contractLoad convertToken paramsVec abi method = .ok s ↔
      ∃ c f, contractLoad abi = .ok c ∧ c.functions.lookup method = some f ∧
        (∀ i ∈ f.inputs, ∃ v, inputValue convertToken paramsVec i = .ok v) ∧
        ∃ m : JsonMap, s = m.toValue.toJsonString ∧
          ∀ k, m.get? k = (lastNamed f.inputs k).bind fun i => (inputValue convertToken paramsVec i).toOption := by
  have hspec {f : AbiFunction} {m : JsonMap}
      (h : f.inputs.foldlM (setParam convertToken paramsVec) JsonMap.empty = .ok m) (k : String) :
      m.get? k = (lastNamed f.inputs k).bind fun i => (inputValue convertToken paramsVec i).toOption := by
    rw [(foldlM_setParam_ok convertToken paramsVec h).2 k]
    cases lastNamed f.inputs k <;> rfl
  constructor
  · intro h
    cases hc : contractLoad abi with
    | error e => rw [buildJsonFromParams_of_load_error contractLoad convertToken hc] at h; cases h
    | ok c =>
      cases hf : c.functions.lookup method with
      | none => rw [buildJsonFromParams_of_lookup_none contractLoad convertToken hc hf] at h; cases h
      | some f =>
        rw [buildJsonFromParams_of_lookup contractLoad convertToken hc hf] at h
        cases hl : f.inputs.foldlM (setParam convertToken paramsVec) JsonMap.empty with
        | error e => rw [hl] at h; cases h
        | ok m =>
          rw [hl] at h
          cases h
          exact ⟨c, f, rfl, hf, (foldlM_setParam_ok convertToken paramsVec hl).1, m, rfl, hspec hl⟩
  · rintro ⟨c, f, hc, hf, hall, m, rfl, hm⟩
    obtain ⟨m', hl⟩ := foldlM_setParam_total convertToken paramsVec JsonMap.empty hall
    have hm' : m' = m := JsonMap.ext_get? fun k => by rw [hspec hl, hm]
    rw [buildJsonFromParams_of_lookup contractLoad convertToken hc hf, hl, hm']
    rfl

/-- `build_json_from_params` fails with the ABI's error, with the missing method's, or
with the error of the first input, in the ABI's order, that fails: its flag missing,
nothing after its flag, or its value rejected by `convert_token`, whose error is
passed on as it is. -/
theorem buildJsonFromParams_eq_error {e : String} :
    buildJsonFromParams contractLoad convertToken paramsVec abi method = .error e ↔
      (∃ e', contractLoad abi = .error e' ∧ e = "failed to parse ABI: " ++ e') ∨
      (∃ c, contractLoad abi = .ok c ∧ c.functions.lookup method = none ∧
        e = "failed to load function from abi") ∨
      ∃ c f pre i post, contractLoad abi = .ok c ∧ c.functions.lookup method = some f ∧
        f.inputs = pre ++ i :: post ∧ (∀ j ∈ pre, ∃ v, inputValue convertToken paramsVec j = .ok v) ∧
        ((findParam i.name paramsVec = none ∧ e = notFoundError i) ∨
          (findParam i.name paramsVec = some [] ∧ e = noValueError i) ∨
          ∃ v rest, findParam i.name paramsVec = some (v :: rest) ∧
            paramValue convertToken i.kind v = .error e ∧ ∃ t, convertToken t = .error e) := by
  have hinput {i : Param} :
      inputValue convertToken paramsVec i = .error e ↔
        (findParam i.name paramsVec = none ∧ e = notFoundError i) ∨
        (findParam i.name paramsVec = some [] ∧ e = noValueError i) ∨
        ∃ v rest, findParam i.name paramsVec = some (v :: rest) ∧
          paramValue convertToken i.kind v = .error e ∧ ∃ t, convertToken t = .error e := by
    rw [inputValue_eq_error]
    refine or_congr_right (or_congr_right (exists_congr fun v => exists_congr fun rest => ?_))
    exact and_congr_right fun _ => ⟨fun h => ⟨h, paramValue_error convertToken h⟩, And.left⟩
  constructor
  · intro h
    cases hc : contractLoad abi with
    | error e' =>
      rw [buildJsonFromParams_of_load_error contractLoad convertToken hc] at h
      cases h
      exact .inl ⟨e', rfl, rfl⟩
    | ok c =>
      cases hf : c.functions.lookup method with
      | none =>
        rw [buildJsonFromParams_of_lookup_none contractLoad convertToken hc hf] at h
        cases h
        exact .inr (.inl ⟨c, rfl, hf, rfl⟩)
      | some f =>
        rw [buildJsonFromParams_of_lookup contractLoad convertToken hc hf] at h
        cases hl : f.inputs.foldlM (setParam convertToken paramsVec) JsonMap.empty with
        | ok m => rw [hl] at h; cases h
        | error e' =>
          rw [hl] at h
          cases h
          obtain ⟨pre, i, post, hp, hpre, hi⟩ := (foldlM_setParam_eq_error convertToken paramsVec).mp hl
          exact .inr (.inr ⟨c, f, pre, i, post, rfl, hf, hp, hpre, hinput.mp hi⟩)
  · rintro (⟨e', hc, rfl⟩ | ⟨c, hc, hf, rfl⟩ | ⟨c, f, pre, i, post, hc, hf, hp, hpre, hi⟩)
    · exact buildJsonFromParams_of_load_error contractLoad convertToken hc
    · exact buildJsonFromParams_of_lookup_none contractLoad convertToken hc hf
    · rw [buildJsonFromParams_of_lookup contractLoad convertToken hc hf,
        (foldlM_setParam_eq_error convertToken paramsVec).mpr ⟨pre, i, post, hp, hpre, hinput.mpr hi⟩]
      rfl

end

end EvsCli
