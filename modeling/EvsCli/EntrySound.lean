import EvsCli.TraceSound

/-!
# The commands around the call

`call_contract` creates the client, runs `call_contract_with_client` and prints what
it returned; `call_contract_with_msg` sends a message prepared beforehand. Neither
makes a loud request of its own: once the client is created `call_contract` makes
the loud requests of the call it wraps, and `call_contract_with_msg` sends its
message once and waits for the transaction unless `async_call` is set.
-/

namespace EvsCli

open Run

variable (env : Env)

/-! ## Footprints -/

theorem printJsonResult_kinds (result : JsonValue) (config : Config) :
    Only (·.kind ∈ [.print]) (printJsonResult env result config) := by
  unfold printJsonResult
  split
  · split <;> exact only_println_kind rfl
  · exact only_pure _

theorem describeMessage_kinds (config : Config) (strMsg abi : String) :
    Only (·.kind ∈ [.print, .decode]) (describeMessage env config strMsg abi) := by
  unfold describeMessage decodeCallParameters
  repeat' first
    | apply only_bind | intro _ | split | exact only_pure _ | exact only_lift _ | exact only_println_kind rfl
    | exact only_ask_kind (by rfl) _ | exact only_request_kind (by rfl) _ _

theorem callContractWithMsg_report_kinds (config : Config) (result : JsonValue) :
    Only (·.kind ∈ [.print]) (if !config.isJson then do
        println "Succeeded."
        if !result.isNull then println ("Result: " ++ env.toStringPretty result) else pure ()
      else pure () : Run Exit Unit) := by
  split
  · exact only_bind (only_println_kind rfl) fun _ => by split; exacts [only_println_kind rfl, only_pure _]
  · exact only_pure _

theorem describeMessage_quiet (config : Config) (strMsg abi : String) :
    Only (·.quiet) (describeMessage env config strMsg abi) :=
  (describeMessage_kinds env config strMsg abi).quiet_of_kinds (by decide)

/-! ## Loud requests -/

/-- Once the client is created, the command makes the loud requests of the call it
wraps: installing the logger and printing the result add none. When creating the
client fails, it makes none. -/
theorem callContract_effect (config : Config) (addr abi method params : String)
    (keys : Option String) (isFee : Bool) :
    (∃ e, createClientFor env config = .error e ∧ loud (callContract env config addr abi method params keys isFee).log = []) ∨
      (createClientFor env config = .ok () ∧
        loud (callContract env config addr abi method params keys isFee).log =
          loud (callContractWithClient env config addr abi method params keys isFee).log) := by
  have hreport (result : JsonValue) := (printJsonResult_kinds env result config).quiet_of_kinds (by decide)
  have hloud : loud (callContract env config addr abi method params keys isFee).log =
      loud (callContractWithResult env config addr abi method params keys isFee).log := by
    refine loud_bind_of_quiet fun result => ?_
    dsimp only
    split
    · exact only_bind (only_println rfl) fun _ => hreport result
    · exact only_bind (only_pure _) fun _ => hreport result
  rw [hloud, callContractWithResult, (only_lift _).loud_bind, result_lift]
  cases createClientFor env config with
  | error e => exact .inl ⟨e, rfl, rfl⟩
  | ok u => exact .inr ⟨rfl, rfl⟩

/-- Sending a prepared message hands it over once, with `send_message`, and then waits
for its transaction, in the shard block the sending reported, exactly when
`async_call` is cleared and the sending succeeded. -/
theorem callContractWithMsg_loud (config : Config) (strMsg abi : String) :
    let run := callContractWithMsg env config strMsg abi
    loud run.log = [] ∨
      ∃ p : ParamsOfSendMessage, loud run.log = .sendMessage p :: match env.sendMessage p with
        | .ok r => if config.asyncCall then [] else [.waitForTransaction ⟨p.abi, p.message, r.shardBlockId, true⟩]
        | .error _ => [] := by
  dsimp only
  unfold callContractWithMsg
  rw [(describeMessage_quiet env config strMsg abi).loud_bind]
  split
  · next p _ =>
    obtain ⟨abi', msg⟩ := p
    exact .inr ⟨⟨msg.message, some abi', false⟩, (loud_bind_of_quiet fun result =>
      (callContractWithMsg_report_kinds env config result).quiet_of_kinds (by decide)).trans
        (sendMessageAndWait_loud_eq env _ _ config)⟩
  · exact .inl rfl

theorem describeMessage_ok {config : Config} {strMsg abi a : String} {m : EncodedMessage}
    (h : (describeMessage env config strMsg abi).result = .ok (a, m)) :
    env.loadAbi abi = .ok a ∧ env.unpackMessage strMsg = .ok m ∧
      ∃ body, env.decodeMessage a m.message = .ok body ∧
        .decodeMessage a m.message ∈ (describeMessage env config strMsg abi).log := by
  unfold describeMessage at h ⊢
  obtain ⟨_, hc, -⟩ := result_bind_eq_ok h
  rw [bind_ok hc] at h ⊢
  obtain ⟨a', hl, -⟩ := result_bind_eq_ok h
  rw [bind_ok hl] at h ⊢
  obtain ⟨m', hu, -⟩ := result_bind_eq_ok h
  rw [bind_ok hu] at h ⊢
  simp only [result_lift, log_lift, except_mapError_eq_ok, List.nil_append] at h hl hu ⊢
  cases hd : env.decodeMessage a' m'.message with
  | error e => cases hj : config.isJson <;> simp [hj, decodeCallParameters, hd] at h
  | ok body =>
    have : a' = a ∧ m' = m := by cases hj : config.isJson <;> simpa [hj, decodeCallParameters, hd] using h
    obtain ⟨rfl, rfl⟩ := this
    exact ⟨hl, hu, body, hd, by cases hj : config.isJson <;> simp [hj, decodeCallParameters]⟩

/-- `call_contract_with_msg` sends only the message it unpacked from its argument,
with the ABI it loaded, and only after `decode_message` decoded that message with that
ABI; nothing is handed to the network before. -/
theorem callContractWithMsg_sends_decoded (config : Config) (strMsg abi : String) {p : ParamsOfSendMessage}
    (h : .sendMessage p ∈ (callContractWithMsg env config strMsg abi).log) :
    ∃ a m body, env.loadAbi abi = .ok a ∧ env.unpackMessage strMsg = .ok m ∧
      env.decodeMessage a m.message = .ok body ∧ p = ⟨m.message, some a, false⟩ ∧
      ∃ l₁ l₂, (callContractWithMsg env config strMsg abi).log = l₁ ++ l₂ ∧
        .decodeMessage a m.message ∈ l₁ ∧ ∀ e ∈ l₁, e.submits = false := by
  have hq := describeMessage_quiet env config strMsg abi
  unfold callContractWithMsg at h ⊢
  rw [log_bind] at h ⊢
  rcases hD : (describeMessage env config strMsg abi).result with x | ⟨a, m⟩ <;> rw [hD] at h
  · cases hq.all _ (by simpa using h)
  rcases List.mem_append.mp h with h | h
  · cases hq.all _ h
  obtain ⟨hl, hu, body, hb, hmem⟩ := describeMessage_ok env hD
  refine ⟨a, m, body, hl, hu, hb, ?_, _, _, rfl, hmem, fun e he => Event.submits_of_quiet (hq.all e he)⟩
  dsimp only at h
  rw [log_bind, List.mem_append] at h
  rcases h with h | h
  · rw [sendMessageAndWait_log] at h
    simp only [List.mem_append, List.mem_cons] at h
    rcases h with h | h | h
    · split at h <;> simp at h
    · exact Event.sendMessage.inj h
    · split at h
      · split at h <;> simp at h
      · cases h
  · split at h
    · exact absurd ((callContractWithMsg_report_kinds env config _).all _ h) (by simp [Event.kind])
    · cases h

/-- The prepared message is sent after it was decoded. -/
theorem callContractWithMsg_sends_decoded_answering :
    .sendMessage ⟨"msg", some "abi", false⟩ ∈ (callContractWithMsg answeringEnv
      { isJson := true, asyncCall := false, localRun := false, debugFail := false, lifetime := 60 } "msg" "abi").log ∧
    ∃ a m body, answeringEnv.loadAbi "abi" = .ok a ∧ answeringEnv.unpackMessage "msg" = .ok m ∧
      answeringEnv.decodeMessage a m.message = .ok body ∧
      (⟨"msg", some "abi", false⟩ : ParamsOfSendMessage) = ⟨m.message, some a, false⟩ ∧
      ∃ l₁ l₂, (callContractWithMsg answeringEnv
          { isJson := true, asyncCall := false, localRun := false, debugFail := false, lifetime := 60 } "msg" "abi").log =
          l₁ ++ l₂ ∧ .decodeMessage a m.message ∈ l₁ ∧ ∀ e ∈ l₁, e.submits = false :=
  have h : .sendMessage ⟨"msg", some "abi", false⟩ ∈ (callContractWithMsg answeringEnv
      { isJson := true, asyncCall := false, localRun := false, debugFail := false, lifetime := 60 } "msg" "abi").log := by
    decide
  ⟨h, callContractWithMsg_sends_decoded answeringEnv _ _ _ h⟩

end EvsCli
