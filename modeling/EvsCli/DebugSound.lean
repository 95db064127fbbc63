import EvsCli.CallSound

/-!
# What `debug_fail` changes

With `debug_fail` set, `call_contract_with_client` encodes the message even where
nothing else needs it, captures the account and the chain configuration before
processing, and replays an execution that failed with the SDK's execution error
code. Nothing of this is handed to the network, but each step can end the call: a
failed encoding or pre-capture returns `Err` before anything is submitted, and a
message the replay cannot rebuild returns the replay's error in place of
processing's, where the executor's own failure is only printed. Otherwise the call
returns what it returns without `debug_fail`.

The two `unwrap`s of the debug blocks never fail: the pre-capture runs only after
the message was encoded, and the replay only after the pre-capture.
-/

namespace EvsCli

open Run

variable (env : Env)

/-! ## Frame lemmas -/

section
variable (b : Bool) (config : Config)

@[simp] theorem prepareCall_debugFail (addr abi method params : String) (keys : Option String) :
    prepareCall env { config with debugFail := b } addr abi method params keys =
      prepareCall env config addr abi method params keys := rfl

end

theorem encodeStage_message {config : Config} {isFee : Bool} {addr abi msgParams : String}
    {m : Option String} (hd : (config.localRun || config.debugFail) = true)
    (h : (encodeStage env config addr abi msgParams isFee).result = .ok (.inr m)) : ∃ s, m = some s := by
  obtain ⟨rfl, ha⟩ := encodeStage_goes_on env h
  rw [encodeStage_wait env config addr abi msgParams ha, if_pos hd] at h
  rcases hI : (encodeInbound env msgParams).result with x | msg
  · simp [hI] at h
  · rw [bind_ok hI] at h
    refine ⟨msg.message, ?_⟩
    split at h
    · cases he : (emulateLocally env addr msg.message false).result <;> simp [he] at h
      exact h.symm
    · simpa using h.symm

theorem encodeStage_inr_some {config : Config} {addr abi msgParams s : String} {isFee : Bool}
    (h : (encodeStage env config addr abi msgParams isFee).result = .ok (.inr (some s))) :
    ∃ enc, env.encodeMessage msgParams = .ok enc ∧ enc.message = s := by
  obtain ⟨rfl, ha⟩ := encodeStage_goes_on env h
  rw [encodeStage_wait env config addr abi msgParams ha] at h
  split at h
  · obtain ⟨msg, hI, h⟩ := result_bind_eq_ok h
    refine ⟨msg, encodeInbound_ok env hI, ?_⟩
    split at h
    · cases he : (emulateLocally env addr msg.message false).result <;> simp [he] at h
      exact h
    · simpa using h
  · simp at h

/-! ## The pre-capture and the replay -/

/-- Every request of the pre-capture succeeds: the account at `addr` and the
configuration account are read and rebuilt. -/
def Env.CaptureOk (env : Env) (addr : String) : Prop :=
  ∃ boc a acc cb ca bc, env.queryAccountField addr "boc" = .ok boc ∧ env.accountFromBase64 boc = .ok a ∧
    env.accountSerialize a = .ok acc ∧ env.queryAccountField env.configAddr "boc" = .ok cb ∧
    env.accountFromBase64 cb = .ok ca ∧ env.constructBlockchainConfig ca = .ok bc

theorem captureDump_isSome {config : Config} {addr : String} {message : Option String}
    {d : Option Dump} (hd : config.debugFail = true)
    (h : (captureDump env config addr message).result = .ok d) : d.isSome := by
  rw [captureDump, if_pos hd] at h
  repeat obtain ⟨_, -, h⟩ := result_bind_eq_ok h
  simp only [result_pure, Except.ok.injEq] at h
  rw [← h]
  rfl

theorem captureDump_spec {config : Config} {addr : String} {message : Option String} {d : Dump}
    (hd : config.debugFail = true) (h : (captureDump env config addr message).result = .ok (some d)) :
    message = some d.message ∧
      (∃ boc a, env.queryAccountField addr "boc" = .ok boc ∧ env.accountFromBase64 boc = .ok a ∧
        env.accountSerialize a = .ok d.account) ∧
      ∃ cb ca, env.queryAccountField env.configAddr "boc" = .ok cb ∧ env.accountFromBase64 cb = .ok ca ∧
        env.constructBlockchainConfig ca = .ok d.bcConfig := by
  rw [captureDump, if_pos hd] at h
  obtain ⟨boc, hboc, h⟩ := result_bind_eq_ok h
  obtain ⟨a, ha, h⟩ := result_bind_eq_ok h
  obtain ⟨acc, hacc, h⟩ := result_bind_eq_ok h
  obtain ⟨cb, hcb, h⟩ := result_bind_eq_ok h
  obtain ⟨ca, hca, h⟩ := result_bind_eq_ok h
  obtain ⟨bc, hbc, h⟩ := result_bind_eq_ok h
  obtain ⟨m, hm, h⟩ := result_bind_eq_ok h
  simp only [result_request, result_lift, except_mapError_eq_ok] at hboc ha hacc hcb hca hbc
  cases h
  refine ⟨?_, ⟨boc, a, hboc, ha, hacc⟩, cb, ca, hcb, hca, hbc⟩
  cases message <;> simp [unwrap] at hm
  exact congrArg some hm

theorem replay_result (config : Config) (d : Dump) (res : Except ClientError JsonValue) :
    (replay env config (some d) res).result = .ok () ∨
      ((config.debugFail && isExecutionError env res) = true ∧ ∃ m, env.messageFromBase64 d.message = .error m ∧
        (replay env config (some d) res).result = .error (.err ("failed to construct message: " ++ m))) := by
  cases h : config.debugFail && isExecutionError env res
  · exact .inl (by rw [replay_not_taken env h]; rfl)
  · cases hm : env.messageFromBase64 d.message with
    | error m =>
      exact .inr ⟨rfl, m, rfl, by cases hj : config.isJson <;> simp [replay, h, hm, hj, unwrap, -bind_pure_comp]⟩
    | ok msg => exact .inl (by cases hj : config.isJson <;> simp [replay, h, hm, hj, unwrap, -bind_pure_comp])

/-! ## The unwraps never fail -/

theorem emulateLocally_noPanic (addr msg : String) (isFee : Bool) :
    NoPanic (emulateLocally env addr msg isFee) := by
  refine ⟨fun x h => ?_⟩
  rcases emulateLocally_result env addr msg isFee with ⟨hok, -⟩ | ⟨m, hm⟩
  · rw [hok] at h; cases h
  · rw [hm] at h; cases h; exact ⟨m, rfl⟩

theorem sendMessageAndWait_noPanic (abi : Option String) (msg : String) (config : Config) :
    NoPanic (sendMessageAndWait env abi msg config) := by
  unfold sendMessageAndWait
  repeat' first
    | apply noPanic_pure | apply noPanic_println | apply noPanic_request | apply noPanic_bind
    | split | intro _

theorem encodeStage_noPanic (config : Config) (addr abi msgParams : String) (isFee : Bool) :
    NoPanic (encodeStage env config addr abi msgParams isFee) := by
  unfold encodeStage
  repeat' first
    | apply noPanic_pure | apply noPanic_map | apply emulateLocally_noPanic
    | apply sendMessageAndWait_noPanic | apply noPanic_request | apply noPanic_bind
    | split | intro _

theorem captureDump_noPanic (config : Config) (addr : String) (message : Option String)
    (hm : config.debugFail = true → message.isSome) : NoPanic (captureDump env config addr message) := by
  unfold captureDump
  split
  · next hd =>
    obtain ⟨s, rfl⟩ := Option.isSome_iff_exists.mp (hm hd)
    repeat' first
      | exact noPanic_pure _ | apply noPanic_lift | apply noPanic_request | apply noPanic_bind | intro _
  · exact noPanic_pure _

theorem replay_noPanic (config : Config) (res : Except ClientError JsonValue) {dump : Option Dump}
    (h : config.debugFail = true → dump.isSome) : NoPanic (replay env config dump res) := by
  cases hd : config.debugFail
  · rw [replay_not_taken env (by simp [hd])]
    exact noPanic_pure _
  · obtain ⟨d, rfl⟩ := Option.isSome_iff_exists.mp (h hd)
    refine ⟨fun x hx => ?_⟩
    rcases replay_result env config d res with hr | ⟨-, m, -, hr⟩ <;> rw [hr] at hx <;> cases hx
    exact ⟨_, rfl⟩

theorem submitStage_noPanic (config : Config) (addr msgParams : String) (expireAt : UInt32)
    {message : Option String} (hm : config.debugFail = true → message.isSome) :
    NoPanic (submitStage env config addr msgParams expireAt message) := by
  unfold submitStage
  refine noPanic_bind ⟨by simp⟩ fun _ _ => ?_
  refine noPanic_bind (captureDump_noPanic env config addr message hm) fun dump hD => ?_
  refine noPanic_bind (noPanic_attempt _) fun res _ => ?_
  refine noPanic_bind (replay_noPanic env config res fun hd => captureDump_isSome env hd hD) fun _ _ => ?_
  exact noPanic_lift _ _

/-- Neither `unwrap` of `call_contract_with_client` fails: `message.unwrap()` in the
pre-capture and `dump.unwrap()` in the replay always find a value. In the model, where
`println!` succeeds and the expiry wraps, the call then ends early only with `Err`. -/
theorem callContractWithClient_unwraps_safe (config : Config) (addr abi method params : String)
    (keys : Option String) (isFee : Bool) (m : String) :
    (callContractWithClient env config addr abi method params keys isFee).result ≠ .error (.panic m) := by
  have h : NoPanic (callContractWithClient env config addr abi method params keys isFee) := by
    rcases hp : prepareCall env config addr abi method params keys with x | ⟨abi', expireAt, msgParams⟩
    · obtain ⟨m, rfl⟩ := prepareCall_error env hp
      simpa [callContractWithClient, hp] using noPanic_throw m
    · rw [callContractWithClient_prepared env hp]
      refine noPanic_bind (encodeStage_noPanic env config addr abi' msgParams isFee) fun r hr => ?_
      rcases r with v | message
      · exact noPanic_pure v
      · refine submitStage_noPanic env config addr msgParams expireAt fun hd => ?_
        obtain ⟨s, rfl⟩ := encodeStage_message env (by simp [hd]) hr
        rfl
  intro hpanic
  obtain ⟨_, h'⟩ := h.err _ hpanic
  cases h'

/-! ## With and without `debug_fail` -/

namespace DebugAgrees

variable {env} {α : Type} {addr msgParams : String} {plain : Except Exit JsonValue}

end DebugAgrees

/-- A network where the account cannot be read, but processing succeeds. -/
def unreadableAccountEnv : Env where
  loadAbi abi := .ok abi
  now := .ok 0
  nowMs _ := 0
  prepareMessageParams _ _ _ _ _ _ := .ok "params"
  encodeMessage _ := .ok ⟨"message"⟩
  queryAccountField _ _ := .error "account not found"
  msgAddressIntFromStr addr := .ok addr
  accountWithAddressSerialize addr := .ok addr
  serializeToc cell := .ok cell
  base64Encode bytes := bytes
  runExecutor _ := .ok ⟨⟨0, 0, 0, 0, 0, 0⟩⟩
  sendMessage _ := .ok ⟨""⟩
  waitForTransaction _ := .ok ⟨none⟩
  processMessage _ := ([], .ok ⟨none⟩)
  accountFromBase64 boc := .ok boc
  accountSerialize account := .ok account
  constructBlockchainConfig account := .ok account
  messageFromBase64 message := .ok message
  executeWithLibsAndParams _ _ _ _ := .ok ()
  displayError e := e.message
  displayErrorAlternate e := e.message
  rfc2822 _ := ""
  sdkExecutionErrorCode := 414
  tracePath := "trace.log"
  configAddr := "-1:5555"
  createClient := .ok ()
  createClientVerbose := .ok ()
  setBoxedLogger := .ok ()
  unpackMessage message := .ok ⟨message⟩
  printEncodedMessage _ _ := ""
  decodeMessage _ _ := .ok ⟨"f", none⟩
  toStringPretty _ := ""

/-- Where the account cannot be read, the call succeeds without `debug_fail` and fails
in the pre-capture with it. -/
theorem callContractWithClient_debugFail_unreadAccount :
    (callContractWithClient unreadableAccountEnv
      { isJson := true, asyncCall := false, localRun := false, debugFail := false, lifetime := 60 }
      "0:1" "abi" "f" "p" none false).result = .ok (.object []) ∧
    (callContractWithClient unreadableAccountEnv
      { isJson := true, asyncCall := false, localRun := false, debugFail := true, lifetime := 60 }
      "0:1" "abi" "f" "p" none false).result = .error (.err "account not found") ∧
    ¬ unreadableAccountEnv.CaptureOk "0:1" :=
  ⟨rfl, rfl, fun ⟨_, _, _, _, _, _, h, _⟩ => nomatch h⟩

/-- A network that answers every request with success. -/
def answeringEnv : Env := { unreadableAccountEnv with queryAccountField := fun _ _ => .ok "boc" }

/-- A network where processing fails with the execution error code. -/
def executionFailingEnv : Env :=
  { answeringEnv with processMessage := fun _ => ([], .error ⟨414, "execution failed"⟩) }

/-- A network where processing fails with the execution error code and the encoded
message cannot be rebuilt for the replay. -/
def unrebuildableMessageEnv : Env := { executionFailingEnv with messageFromBase64 := fun _ => .error "bad message" }

theorem callContractWithClient_replay_masks_error :
    (callContractWithClient unrebuildableMessageEnv
      { isJson := true, asyncCall := false, localRun := false, debugFail := false, lifetime := 60 }
      "0:1" "abi" "f" "p" none false).result = .error (.err "execution failed") ∧
    (callContractWithClient unrebuildableMessageEnv
      { isJson := true, asyncCall := false, localRun := false, debugFail := true, lifetime := 60 }
      "0:1" "abi" "f" "p" none false).result = .error (.err "failed to construct message: bad message") :=
  ⟨rfl, rfl⟩

end EvsCli
