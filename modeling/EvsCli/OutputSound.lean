import EvsCli.TraceSound

/-!
# What a call returns and what it prints

`call_contract_with_client` returns `Null` in fee mode, `{}` on the asynchronous path
once `send_message` has succeeded, and otherwise the output `process_message` decoded.

With `is_json`, the standard output of `call_contract` is the pretty-printed result
and nothing else, but for two lines of `emulate_locally` that do not look at
`is_json`: the fee object of fee mode, and, with `local_run`, the notice
`Local run succeeded. Executing onchain.`, which comes before the result.
-/

namespace EvsCli

open Run

variable (env : Env)

/-! ## Standard output -/

/-- The text a request writes to standard output. -/
def Event.text : Event → Option String
  | .print s => some s
  | _ => none

@[simp] theorem Event.text_print (s : String) : (Event.print s).text = some s := rfl

theorem Event.text_eq_none {e : Event} (h : e.kind ≠ .print) : e.text = none := by
  cases e <;> first | rfl | exact absurd rfl h

theorem Run.Only.silent_of_kinds {ε α : Type} {x : Run ε α} {ks : List Kind} (hx : Only (·.kind ∈ ks) x)
    (hks : ∀ k ∈ ks, k ≠ .print) : Only (·.text = none) x :=
  hx.mono fun _ he => Event.text_eq_none (hks _ he)

/-- What a log writes to standard output, in order. -/
def printed (l : List Event) : List String := l.filterMap Event.text

@[simp] theorem printed_nil : printed [] = [] := rfl

@[simp] theorem printed_append (l l' : List Event) : printed (l ++ l') = printed l ++ printed l' :=
  List.filterMap_append _ _ _

@[simp] theorem printed_cons (e : Event) (l : List Event) :
    printed (e :: l) = (e.text.map fun s => [s]).getD [] ++ printed l := by
  cases h : e.text <;> simp [printed, List.filterMap_cons, h]

section
variable {ε α β : Type}

theorem Run.Only.printed_eq_nil {x : Run ε α} (hx : Only (·.text = none) x) : printed x.log = [] :=
  List.filterMap_eq_nil_iff.mpr fun e he => hx.all e he

theorem Run.Only.printed_bind {x : Run ε α} {f : α → Run ε β} (hx : Only (·.text = none) x) :
    printed (x >>= f).log = match x.result with
      | .ok a => printed (f a).log
      | .error _ => [] := by
  rw [log_bind, printed_append, hx.printed_eq_nil, List.nil_append]
  cases h : x.result <;> simp [h]

theorem printed_bind_of_silent {x : Run ε α} {f : α → Run ε β} (hf : ∀ a, Only (·.text = none) (f a)) :
    printed (x >>= f).log = printed x.log := by
  rw [log_bind, printed_append]
  split
  · rw [(hf _).printed_eq_nil, List.append_nil]
  · rw [printed_nil, List.append_nil]

end

/-! ## Silent parts -/

theorem accountState_silent (addr : String) (isFee : Bool) :
    Only (·.text = none) (accountState env addr isFee) :=
  (accountState_kinds env addr isFee).silent_of_kinds (by decide)

theorem encodeInbound_silent (msgParams : String) : Only (·.text = none) (encodeInbound env msgParams) :=
  (encodeInbound_kinds env msgParams).silent_of_kinds (by decide)

section
variable {config : Config} (hj : config.isJson = true)
include hj

theorem sendMessageAndWait_silent (abi : Option String) (msg : String) :
    Only (·.text = none) (sendMessageAndWait env abi msg config) :=
  (sendMessageAndWait_kinds env abi msg config).silent_of_kinds (by rw [hj]; decide)

theorem submitStage_silent (addr msgParams : String) (expireAt : UInt32) (message : Option String) :
    Only (·.text = none) (submitStage env config addr msgParams expireAt message) :=
  (submitStage_kinds env config addr msgParams expireAt message).silent_of_kinds (by rw [hj]; decide)

end

/-! ## What the local run prints -/

/-- The notice `emulate_locally` prints after a local run outside fee mode. -/
def localRunNotice : String := "Local run succeeded. Executing onchain.\n"

/-- `emulate_locally` prints nothing when it fails, and after a successful run the fee
object in fee mode and the notice otherwise, whatever `is_json` says. -/
theorem emulateLocally_printed (addr msg : String) (isFee : Bool) :
    let out := printed (emulateLocally env addr msg isFee).log
    out = [] ∨ (isFee = false ∧ out = [localRunNotice]) ∨ (isFee = true ∧ ∃ fees, out = printed (printFees fees).log) := by
  dsimp only
  unfold emulateLocally
  rw [(accountState_silent env addr isFee).printed_bind]
  split
  · simp only [log_bind, result_ask, log_ask, printed_append, printed_cons, Event.text]
    split
    · exact .inl rfl
    · cases isFee
      · exact .inr (.inl ⟨rfl, by simp [localRunNotice, Event.text]⟩)
      · exact .inr (.inr ⟨rfl, _, by simp; rfl⟩)
  · exact .inl rfl

theorem encodeStage_printed {config : Config} (hj : config.isJson = true) (addr abi msgParams : String)
    (isFee : Bool) :
    let out := printed (encodeStage env config addr abi msgParams isFee).log
    out = [] ∨ (isFee = false ∧ config.localRun = true ∧ out = [localRunNotice]) ∨
      (isFee = true ∧ ∃ fees, out = printed (printFees fees).log) := by
  dsimp only
  have hsend (abi : Option String) (m : String) :=
    (sendMessageAndWait_silent env hj abi m).printed_eq_nil
  cases isFee with
  | true =>
    rw [encodeStage_fee, (encodeInbound_silent env msgParams).printed_bind]
    split
    · rw [printed_bind_of_silent fun _ => only_pure _]
      rcases emulateLocally_printed env addr _ true with h | ⟨h, -⟩ | h
      exacts [.inl h, absurd h (by decide), .inr (.inr h)]
    · exact .inl rfl
  | false =>
    have hemu (m : String) (hl : config.localRun = true) {out : List String}
        (h : out = printed (emulateLocally env addr m false).log) :
        out = [] ∨ (false = false ∧ config.localRun = true ∧ out = [localRunNotice]) ∨
          (false = true ∧ ∃ fees, out = printed (printFees fees).log) := by
      rcases emulateLocally_printed env addr m false with h' | ⟨-, h'⟩ | ⟨h', -⟩
      exacts [.inl (h.trans h'), .inr (.inl ⟨rfl, hl, h.trans h'⟩), absurd h' (by decide)]
    cases ha : config.asyncCall
    · rw [encodeStage_wait env config addr abi msgParams ha]
      split
      · rw [(encodeInbound_silent env msgParams).printed_bind]
        split
        · split
          · next hl => exact hemu _ hl (by simp; rfl)
          · exact .inl rfl
        · exact .inl rfl
      · exact .inl rfl
    · rw [encodeStage_async env config addr abi msgParams ha, (encodeInbound_silent env msgParams).printed_bind]
      split
      · split
        · next hl =>
          exact hemu _ hl (printed_bind_of_silent fun _ => only_map (sendMessageAndWait_silent env hj _ _) _)
        · exact .inl (by simp [hsend])
      · exact .inl rfl

theorem callContractWithClient_printed {config : Config} (hj : config.isJson = true)
    (addr abi method params : String) (keys : Option String) (isFee : Bool) :
    let out := printed (callContractWithClient env config addr abi method params keys isFee).log
    out = [] ∨ (isFee = false ∧ config.localRun = true ∧ out = [localRunNotice]) ∨
      (isFee = true ∧ ∃ fees, out = printed (printFees fees).log) := by
  rcases hp : prepareCall env config addr abi method params keys with x | ⟨abi', expireAt, msgParams⟩
  · exact .inl (by simp [callContractWithClient, hp])
  · dsimp only
    rw [callContractWithClient_prepared env hp, printed_bind_of_silent fun r => ?_]
    · exact encodeStage_printed env hj addr abi' msgParams isFee
    · cases r with
      | inl v => exact only_pure v
      | inr m => exact submitStage_silent env hj addr msgParams expireAt m

/-- With `is_json`, `call_contract` writes to standard output the pretty-printed result,
unless it is `Null` or the call failed, and before it at most one of the two texts of
`emulate_locally`: the fee object in fee mode, or, with `local_run`, the notice
`Local run succeeded. Executing onchain.`, which is not JSON. -/
theorem callContract_json_stdout (config : Config) (addr abi method params : String) (keys : Option String)
    (isFee : Bool) (hj : config.isJson = true) :
    ∃ pre, printed (callContract env config addr abi method params keys isFee).log =
        pre ++ (match (callContractWithResult env config addr abi method params keys isFee).result with
          | .ok v => if v.isNull then [] else [env.toStringPretty v ++ "\n"]
          | .error _ => []) ∧
      (pre = [] ∨ (isFee = false ∧ config.localRun = true ∧ pre = [localRunNotice]) ∨
        (isFee = true ∧ ∃ fees, pre = printed (printFees fees).log)) := by
  refine ⟨printed (callContractWithResult env config addr abi method params keys isFee).log, ?_, ?_⟩
  · rw [callContract, log_bind, printed_append]
    cases h : (callContractWithResult env config addr abi method params keys isFee).result with
    | error e => rfl
    | ok v => cases hv : v.isNull <;> simp [hj, printJsonResult, hv, -bind_pure_comp]
  · rw [callContractWithResult, (only_lift _).printed_bind]
    split
    · exact callContractWithClient_printed env hj addr abi method params keys isFee
    · exact .inl rfl

/-- With `local_run` and `is_json`, the standard output holds the notice before the
result: here the notice and an empty pretty-printed result. -/
theorem callContract_json_stdout_localRun :
    printed (callContract answeringEnv
        { isJson := true, asyncCall := false, localRun := true, debugFail := false, lifetime := 60 }
        "0:1" "abi" "f" "p" none false).log = [localRunNotice, "\n"] ∧
    ∃ pre, printed (callContract answeringEnv
        { isJson := true, asyncCall := false, localRun := true, debugFail := false, lifetime := 60 }
        "0:1" "abi" "f" "p" none false).log =
        pre ++ (match (callContractWithResult answeringEnv
            { isJson := true, asyncCall := false, localRun := true, debugFail := false, lifetime := 60 }
            "0:1" "abi" "f" "p" none false).result with
          | .ok v => if v.isNull then [] else [answeringEnv.toStringPretty v ++ "\n"]
          | .error _ => []) ∧
      (pre = [] ∨ (false = false ∧
          ({ isJson := true, asyncCall := false, localRun := true, debugFail := false, lifetime := 60 } : Config).localRun =
            true ∧ pre = [localRunNotice]) ∨
        (false = true ∧ ∃ fees, pre = printed (printFees fees).log)) :=
  ⟨rfl, callContract_json_stdout answeringEnv _ _ _ _ _ _ _ rfl⟩

/-! ## What the call returns -/

theorem sendMessageAndWait_async_ok {abi : Option String} {msg : String} {config : Config} {v : JsonValue}
    (ha : config.asyncCall = true) (h : (sendMessageAndWait env abi msg config).result = .ok v) :
    v = .object [] ∧ ∃ r, env.sendMessage ⟨msg, abi, false⟩ = .ok r := by
  cases hs : env.sendMessage ⟨msg, abi, false⟩ <;> cases hj : config.isJson <;>
    simp [sendMessageAndWait, hs, hj, ha, -bind_pure_comp] at h ⊢ <;> exact h.symm

theorem map_sendMessageAndWait_async_ok {abi : Option String} {msg : String} {config : Config} {w : JsonValue}
    (ha : config.asyncCall = true)
    (h : (Sum.inl <$> sendMessageAndWait env abi msg config : Run Exit (JsonValue ⊕ Option String)).result =
      .ok (.inl w)) :
    w = .object [] ∧ ∃ r, env.sendMessage ⟨msg, abi, false⟩ = .ok r := by
  rw [result_map] at h
  cases hs : (sendMessageAndWait env abi msg config).result <;> rw [hs] at h <;> cases h
  exact sendMessageAndWait_async_ok env ha hs

theorem encodeStage_async_inl {config : Config} {addr abi msgParams : String} {w : JsonValue}
    (ha : config.asyncCall = true) (h : (encodeStage env config addr abi msgParams false).result = .ok (.inl w)) :
    w = .object [] ∧ ∃ p r, .sendMessage p ∈ (encodeStage env config addr abi msgParams false).log ∧
      env.sendMessage p = .ok r := by
  rw [encodeStage_async env config addr abi msgParams ha] at h ⊢
  obtain ⟨msg, hI, h⟩ := result_bind_eq_ok h
  rw [bind_ok hI]
  dsimp only
  by_cases hl : config.localRun = true
  · rw [if_pos hl] at h ⊢
    obtain ⟨u, hM, h⟩ := result_bind_eq_ok h
    obtain ⟨rfl, r, hr⟩ := map_sendMessageAndWait_async_ok env ha h
    exact ⟨rfl, _, r, by simp [bind_ok hM, sendMessageAndWait_log], hr⟩
  · rw [if_neg hl] at h ⊢
    obtain ⟨rfl, r, hr⟩ := map_sendMessageAndWait_async_ok env ha h
    exact ⟨rfl, _, r, by simp [sendMessageAndWait_log], hr⟩

theorem encodeStage_sync_not_inl {config : Config} {addr abi msgParams : String} {w : JsonValue}
    (ha : config.asyncCall = false) : (encodeStage env config addr abi msgParams false).result ≠ .ok (.inl w) := by
  rw [encodeStage_wait env config addr abi msgParams ha]
  split
  · refine result_bind_ne fun msg => ?_
    split
    · cases hm : (emulateLocally env addr msg.message false).result <;> simp [hm]
    · simp
  · simp

theorem submitStage_ok {config : Config} {addr msgParams : String} {expireAt : UInt32}
    {message : Option String} {v : JsonValue} (h : (submitStage env config addr msgParams expireAt message).result = .ok v) :
    .processMessage msgParams ∈ (submitStage env config addr msgParams expireAt message).log ∧
      ∃ r, (env.processMessage msgParams).2 = .ok r ∧ v = decodedOutput r := by
  have h' := h
  unfold submitStage at h'
  obtain ⟨_, -, h'⟩ := result_bind_eq_ok h'
  obtain ⟨dump, hC, h'⟩ := result_bind_eq_ok h'
  obtain ⟨res, hres, h'⟩ := result_bind_eq_ok h'
  obtain ⟨_, -, h'⟩ := result_bind_eq_ok h'
  simp only [result_attempt, Except.ok.injEq] at hres
  subst hres
  simp only [result_lift, except_mapError_eq_ok, processMessage_result] at h'
  refine ⟨by simp [submitStage_log env hC, processMessage_log], ?_⟩
  cases hr : (env.processMessage msgParams).2 <;> simp [hr] at h'
  exact ⟨_, rfl, h'.symm⟩

/-- What `call_contract_with_client` returns when it succeeds: `Null` in fee mode; `{}`
on the asynchronous path, once `send_message` succeeded; otherwise the output
`process_message` decoded (`{}` when there is none), once processing succeeded. -/
theorem callContractWithClient_result (config : Config) (addr abi method params : String) (keys : Option String)
    (isFee : Bool) {v : JsonValue}
    (h : (callContractWithClient env config addr abi method params keys isFee).result = .ok v) :
    (isFee = true ∧ v = .null) ∨
      (isFee = false ∧ config.asyncCall = true ∧ v = .object [] ∧
        ∃ p r, .sendMessage p ∈ (callContractWithClient env config addr abi method params keys isFee).log ∧
          env.sendMessage p = .ok r) ∨
      (isFee = false ∧ config.asyncCall = false ∧
        ∃ mp r, .processMessage mp ∈ (callContractWithClient env config addr abi method params keys isFee).log ∧
          (env.processMessage mp).2 = .ok r ∧ v = decodedOutput r) := by
  rcases hp : prepareCall env config addr abi method params keys with x | ⟨abi', expireAt, msgParams⟩
  · simp [callContractWithClient, hp] at h
  rw [callContractWithClient_prepared env hp] at h ⊢
  obtain ⟨r, hE, hk⟩ := result_bind_eq_ok h
  rw [bind_ok hE]
  cases r with
  | inl w =>
    cases hk
    cases isFee
    · cases ha : config.asyncCall
      · exact absurd hE (encodeStage_sync_not_inl env ha)
      · obtain ⟨rfl, p, r, hmem, hs⟩ := encodeStage_async_inl env ha hE
        exact .inr (.inl ⟨rfl, rfl, rfl, p, r, List.mem_append_left _ hmem, hs⟩)
    · rcases encodeStage_fee_result env config addr abi' msgParams with ⟨h', -⟩ | ⟨_, h'⟩ <;> rw [h'] at hE
      · cases hE
        exact .inl ⟨rfl, rfl⟩
      · cases hE
  | inr m =>
    obtain ⟨rfl, ha⟩ := encodeStage_goes_on env hE
    obtain ⟨hmem, r, hr, rfl⟩ := submitStage_ok env hk
    exact .inr (.inr ⟨rfl, ha, msgParams, r, List.mem_append_right _ hmem, hr, rfl⟩)

/-- A synchronous call whose processing succeeds without decoded output returns `{}`. -/
theorem callContractWithClient_result_answering :
    (callContractWithClient answeringEnv
        { isJson := true, asyncCall := false, localRun := false, debugFail := false, lifetime := 60 }
        "0:1" "abi" "f" "p" none false).result = .ok (.object []) ∧
    ((false = true ∧ JsonValue.object [] = .null) ∨
      (false = false ∧ false = true ∧ JsonValue.object [] = .object [] ∧
        ∃ p r, .sendMessage p ∈ (callContractWithClient answeringEnv
            { isJson := true, asyncCall := false, localRun := false, debugFail := false, lifetime := 60 }
            "0:1" "abi" "f" "p" none false).log ∧ answeringEnv.sendMessage p = .ok r) ∨
      (false = false ∧ false = false ∧
        ∃ mp r, .processMessage mp ∈ (callContractWithClient answeringEnv
            { isJson := true, asyncCall := false, localRun := false, debugFail := false, lifetime := 60 }
            "0:1" "abi" "f" "p" none false).log ∧
          (answeringEnv.processMessage mp).2 = .ok r ∧ JsonValue.object [] = decodedOutput r)) :=
  have h : (callContractWithClient answeringEnv
      { isJson := true, asyncCall := false, localRun := false, debugFail := false, lifetime := 60 }
      "0:1" "abi" "f" "p" none false).result = .ok (.object []) := rfl
  ⟨h, callContractWithClient_result answeringEnv _ _ _ _ _ _ _ h⟩

end EvsCli
