import EvsCli.Call
import EvsCli.Effect

/-!
# What one call submits, waits for and replays

`call_contract_with_client` hands the message to the network at most once: through
`send_message` on the asynchronous path, through `process_message` otherwise, and
never in fee mode, which ends after the local emulation. It never waits for a
transaction on the asynchronous path, and it enters the instrumented replay
exactly when `debug_fail` is set and processing failed with the SDK's execution
error code.
-/

namespace EvsCli

open Run

variable (env : Env)

/-! ## Footprints

Each function's footprint lemma lists the kinds of request it can log, printing
only outside JSON mode where its code says so; that it is quiet follows from the
list. -/

theorem printFees_kinds (fees : TransactionFees) : Only (·.kind ∈ [.print]) (printFees fees) := by
  unfold printFees
  repeat' first | apply only_bind | exact only_println_kind rfl | intro _

theorem accountState_kinds (addr : String) (isFee : Bool) :
    Only (·.kind ∈ [.query]) (accountState env addr isFee) := by
  refine only_bind (only_ask_kind (by rfl) _) fun r => ?_
  split
  · exact only_pure _
  · split
    · exact only_lift _
    · exact only_throw _

theorem emulateLocally_kinds (addr msg : String) (isFee : Bool) :
    Only (·.kind ∈ [.query, .execute, .print]) (emulateLocally env addr msg isFee) := by
  refine only_bind ((accountState_kinds env addr isFee).kinds_sub (by decide)) fun _ =>
    only_bind (only_ask_kind (by rfl) _) fun r => ?_
  split
  · exact only_throw _
  · split
    · exact (printFees_kinds _).kinds_sub (by decide)
    · exact only_println_kind rfl

theorem notify_kinds : ∀ events : List ProcessingEvent, Only (·.kind ∈ [.print]) (notify events)
  | [] => only_pure _
  | .didSend _ _ _ :: events => only_bind (only_println_kind rfl) fun _ => notify_kinds events
  | .other :: events => notify_kinds events

theorem printExpireAt_kinds (config : Config) (expireAt : UInt32) :
    Only (·.kind ∈ Kind.printIf (!config.isJson) []) (printExpireAt env config expireAt) := by
  unfold printExpireAt
  split
  · next h =>
    exact only_bind (@only_ask _ _ (·.kind ∈ Kind.printIf _ []) (.print _) (Kind.print_mem_printIf h _) ())
      fun _ => only_println_printIf h
  · exact only_pure _

theorem captureDump_kinds (config : Config) (addr : String) (message : Option String) :
    Only (·.kind ∈ [.query]) (captureDump env config addr message) := by
  unfold captureDump
  split
  · repeat' first
      | apply only_bind | intro _ | exact only_pure _ | exact only_lift _ | exact only_request_kind (by rfl) _ _
      | exact only_unwrap _
  · exact only_pure _

theorem sendMessageAndWait_kinds (abi : Option String) (msg : String) (config : Config) :
    Only (·.kind ∈ Kind.printIf (!config.isJson) [.send, .wait]) (sendMessageAndWait env abi msg config) := by
  unfold sendMessageAndWait
  repeat' first
    | apply only_bind | intro _ | split | exact only_pure _ | exact only_println_printIf ‹_›
    | exact only_request_printIf (by rfl) _ _

theorem processMessage_kinds (msgParams : String) (config : Config) :
    Only (·.kind ∈ Kind.printIf (!config.isJson) [.process]) (processMessage env msgParams config) := by
  unfold processMessage
  repeat' first
    | exact (notify_kinds _).mono fun e he => (List.mem_singleton.mp he) ▸ Kind.print_mem_printIf ‹_› _
    | apply only_bind | intro _ | split | exact only_pure _ | exact only_lift _ | exact only_ask_printIf (by rfl) _

theorem encodeInbound_kinds (msgParams : String) : Only (·.kind ∈ [.encode]) (encodeInbound env msgParams) :=
  only_request_kind (by rfl) _ _

theorem encodeStage_kinds (config : Config) (addr abi msgParams : String) (isFee : Bool) :
    Only (·.kind ∈ [.encode, .query, .execute, .print, .send, .wait]) (encodeStage env config addr abi msgParams isFee) := by
  unfold encodeStage
  repeat' first
    | exact (emulateLocally_kinds env _ _ _).kinds_sub (by decide)
    | exact (sendMessageAndWait_kinds env _ _ _).kinds_sub (Kind.printIf_forall (by decide) (by decide))
    | apply only_bind | apply only_map | intro _ | split | exact only_pure _
    | exact (encodeInbound_kinds env _).kinds_sub (by decide)

theorem emulateLocally_quiet (addr msg : String) (isFee : Bool) :
    Only (·.quiet) (emulateLocally env addr msg isFee) :=
  (emulateLocally_kinds env addr msg isFee).quiet_of_kinds (by decide)

theorem printExpireAt_quiet (config : Config) (expireAt : UInt32) :
    Only (·.quiet) (printExpireAt env config expireAt) :=
  (printExpireAt_kinds env config expireAt).quiet_of_kinds (Kind.printIf_forall rfl (by decide))

theorem captureDump_quiet (config : Config) (addr : String) (message : Option String) :
    Only (·.quiet) (captureDump env config addr message) :=
  (captureDump_kinds env config addr message).quiet_of_kinds (by decide)

theorem encodeInbound_quiet (msgParams : String) : Only (·.quiet) (encodeInbound env msgParams) :=
  (encodeInbound_kinds env msgParams).quiet_of_kinds (by decide)

theorem replay_not_taken {config : Config} {dump : Option Dump} {res : Except ClientError JsonValue}
    (h : (config.debugFail && isExecutionError env res) = false) : replay env config dump res = pure () := by
  simp [replay, h]

theorem replay_log (config : Config) (dump : Option Dump) (res : Except ClientError JsonValue)
    (h : (config.debugFail && isExecutionError env res) = true) :
    ∃ l, (replay env config dump res).log = .replay :: l ∧ ∀ e ∈ l, e.kind ∈ Kind.printIf (!config.isJson) [.debug] := by
  rw [replay, if_pos h, log_bind, log_ask, result_ask]
  refine ⟨_, rfl, (?_ : Only _ _).all⟩
  dsimp only
  repeat' first
    | apply only_bind | intro _ | split | exact only_pure _ | exact only_lift _ | exact only_unwrap _
    | exact only_ask_printIf (by rfl) _ | exact only_println_printIf ‹_›

theorem replay_kinds (config : Config) (dump : Option Dump) (res : Except ClientError JsonValue) :
    Only (·.kind ∈ Kind.printIf (!config.isJson) [.replay, .debug]) (replay env config dump res) := by
  cases h : config.debugFail && isExecutionError env res
  · rw [replay_not_taken env h]
    exact only_pure _
  · obtain ⟨l, hl, hk⟩ := replay_log env config dump res h
    refine ⟨fun e he => ?_⟩
    rw [hl, List.mem_cons] at he
    rcases he with rfl | he
    · exact Kind.mem_printIf_of_mem (by decide) _
    · exact Kind.printIf_sub (by decide) _ (hk e he)

theorem submitStage_kinds (config : Config) (addr msgParams : String) (expireAt : UInt32) (message : Option String) :
    Only (·.kind ∈ Kind.printIf (!config.isJson) [.query, .process, .replay, .debug])
      (submitStage env config addr msgParams expireAt message) := by
  have hq : ∀ k ∈ [Kind.query], k ∈ [.query, .process, .replay, .debug] := by decide
  unfold submitStage
  exact only_bind ((printExpireAt_kinds env config expireAt).kinds_sub (Kind.printIf_sub (by decide))) fun _ =>
    only_bind ((captureDump_kinds env config addr message).kinds_sub fun k hk => Kind.mem_printIf_of_mem (hq k hk) _)
      fun dump => only_bind (only_attempt ((processMessage_kinds env msgParams config).kinds_sub
        (Kind.printIf_sub (by decide)))) fun res =>
      only_bind ((replay_kinds env config dump res).kinds_sub (Kind.printIf_sub (by decide))) fun _ => only_lift _

theorem replay_loud (config : Config) (dump : Option Dump) (res : Except ClientError JsonValue) :
    loud (replay env config dump res).log =
      if config.debugFail && isExecutionError env res then [.replay] else [] := by
  cases h : config.debugFail && isExecutionError env res
  · simp [replay_not_taken env h]
  · obtain ⟨l, hl, hk⟩ := replay_log env config dump res h
    have hq := @Kind.printIf_forall (fun k => k.quiet = true) (!config.isJson) [.debug] rfl (by decide)
    have hl' : loud l = [] :=
      List.filter_eq_nil_iff.mpr fun e he => by simp [Event.quiet_eq_kind, hq _ (hk e he)]
    simp [hl, hl', Event.quiet]

/-! ## Spec lemmas -/

theorem accountState_error {addr : String} {isFee : Bool} {x : Exit}
    (h : (accountState env addr isFee).result = .error x) : ∃ m, x = .err m := by
  simp only [accountState, result_bind, result_ask, except_bind_ok_eq] at h
  split at h
  · cases h
  · split at h
    · cases hd : dummyAccountBoc env addr <;> simp [hd] at h
      exact ⟨_, h.symm⟩
    · cases h; exact ⟨_, rfl⟩

@[simp] theorem printFees_result (fees : TransactionFees) : (printFees fees).result = .ok () := by
  simp [printFees]

theorem emulateLocally_result (addr msg : String) (isFee : Bool) :
    let run := emulateLocally env addr msg isFee
    (run.result = .ok () ∧ ∃ p r, .runExecutor p ∈ run.log ∧ env.runExecutor p = .ok r) ∨
      ∃ m, run.result = .error (.err m) := by
  rcases h : (accountState env addr isFee).result with x | state
  · obtain ⟨m, rfl⟩ := accountState_error env h
    exact .inr ⟨m, by simp [emulateLocally, h]⟩
  · rcases hr : env.runExecutor ⟨msg, state, if isFee then some true else none⟩ with e | r
    · exact .inr ⟨env.displayErrorAlternate e, by simp [emulateLocally, h, hr]⟩
    · refine .inl ⟨?_, _, r, by simp [emulateLocally, h], hr⟩
      cases isFee <;> simp only [Bool.false_eq_true, if_false, if_true] at hr <;>
        simp [emulateLocally, h, hr]

theorem sendMessageAndWait_log (abi : Option String) (msg : String) (config : Config) :
    (sendMessageAndWait env abi msg config).log =
      (if config.isJson then [] else [.print "Processing... \n"]) ++
        .sendMessage ⟨msg, abi, false⟩ ::
          match env.sendMessage ⟨msg, abi, false⟩ with
          | .ok r =>
            if config.asyncCall then [] else [.waitForTransaction ⟨abi, msg, r.shardBlockId, true⟩]
          | .error _ => [] := by
  unfold sendMessageAndWait
  cases config.isJson <;> cases config.asyncCall <;> cases h : env.sendMessage ⟨msg, abi, false⟩ <;>
    simp [h]

theorem notify_result : ∀ events : List ProcessingEvent, (notify events).result = .ok ()
  | [] => rfl
  | .didSend _ _ _ :: events => by simp [notify, notify_result events]
  | .other :: events => notify_result events

theorem processMessage_log (msgParams : String) (config : Config) :
    (processMessage env msgParams config).log =
      .processMessage msgParams ::
        (if config.isJson then [] else (notify (env.processMessage msgParams).1).log) := by
  cases h : config.isJson <;> simp [processMessage, notify_result, h]

theorem processMessage_result (msgParams : String) (config : Config) :
    (processMessage env msgParams config).result = decodedOutput <$> (env.processMessage msgParams).2 := by
  cases h : config.isJson <;> cases h' : (env.processMessage msgParams).2 <;>
    simp [processMessage, notify_result, h, h']

/-! ## The three paths of the encoding block -/

theorem encodeStage_fee (config : Config) (addr abi msgParams : String) :
    encodeStage env config addr abi msgParams true =
      encodeInbound env msgParams >>= fun msg =>
        emulateLocally env addr msg.message true >>= fun _ => pure (.inl .null) := by
  simp [encodeStage]

theorem encodeStage_async (config : Config) (addr abi msgParams : String) (ha : config.asyncCall = true) :
    encodeStage env config addr abi msgParams false =
      encodeInbound env msgParams >>= fun msg =>
        if config.localRun then
          emulateLocally env addr msg.message false >>= fun _ =>
            Sum.inl <$> sendMessageAndWait env (some abi) msg.message config
        else Sum.inl <$> sendMessageAndWait env (some abi) msg.message config := by
  simp [encodeStage, ha]

theorem encodeStage_wait (config : Config) (addr abi msgParams : String) (ha : config.asyncCall = false) :
    encodeStage env config addr abi msgParams false =
      if config.localRun || config.debugFail then
        encodeInbound env msgParams >>= fun msg =>
          if config.localRun then
            (fun _ => Sum.inr (some msg.message)) <$> emulateLocally env addr msg.message false
          else pure (.inr (some msg.message))
      else pure (.inr none) := by
  simp [encodeStage, ha]

theorem encodeInbound_error {msgParams : String} {x : Exit}
    (h : (encodeInbound env msgParams).result = .error x) : ∃ m, x = .err m := by
  cases he : env.encodeMessage msgParams <;> simp [encodeInbound, he] at h
  exact ⟨_, h.symm⟩

theorem encodeInbound_ok {msgParams : String} {msg : ResultOfEncodeMessage}
    (h : (encodeInbound env msgParams).result = .ok msg) : env.encodeMessage msgParams = .ok msg := by
  unfold encodeInbound at h
  cases he : env.encodeMessage msgParams <;> simp_all

theorem sendMessageAndWait_loud_eq (abi : Option String) (msg : String) (config : Config) :
    loud (sendMessageAndWait env abi msg config).log =
      .sendMessage ⟨msg, abi, false⟩ :: match env.sendMessage ⟨msg, abi, false⟩ with
        | .ok r => if config.asyncCall then [] else [.waitForTransaction ⟨abi, msg, r.shardBlockId, true⟩]
        | .error _ => [] := by
  rw [sendMessageAndWait_log]
  cases env.sendMessage ⟨msg, abi, false⟩ <;> cases hj : config.isJson <;> cases ha : config.asyncCall <;>
    simp [hj, ha, Event.quiet]

theorem sendMessageAndWait_loud (abi : Option String) (msg : String) {config : Config}
    (ha : config.asyncCall = true) :
    loud (sendMessageAndWait env abi msg config).log = [.sendMessage ⟨msg, abi, false⟩] := by
  rw [sendMessageAndWait_loud_eq]
  cases env.sendMessage ⟨msg, abi, false⟩ <;> simp [ha]

theorem processMessage_loud (msgParams : String) (config : Config) :
    loud (processMessage env msgParams config).log = [.processMessage msgParams] := by
  rw [processMessage_log]
  split
  · rfl
  · simp [Event.quiet, ((notify_kinds _).quiet_of_kinds (by decide)).loud_eq_nil]

@[simp] theorem isExecutionError_processMessage (msgParams : String) (config : Config) :
    isExecutionError env (processMessage env msgParams config).result = env.executionFailed msgParams := by
  rw [processMessage_result, Env.executionFailed]
  cases (env.processMessage msgParams).2 <;> rfl

/-! ## The encoding block -/

theorem encodeStage_quiet (config : Config) (addr abi msgParams : String) (isFee : Bool)
    (h : isFee = true ∨ config.asyncCall = false) :
    Only (·.quiet) (encodeStage env config addr abi msgParams isFee) := by
  have hemu := emulateLocally_quiet env addr
  cases isFee with
  | true =>
    rw [encodeStage_fee]
    exact only_bind (encodeInbound_quiet env _) fun _ => only_bind (hemu _ _) fun _ => only_pure _
  | false =>
    rw [encodeStage_wait env config addr abi msgParams (h.resolve_left Bool.false_ne_true)]
    split
    · refine only_bind (encodeInbound_quiet env _) fun _ => ?_
      split
      · exact only_map (hemu _ _) _
      · exact only_pure _
    · exact only_pure _

/-- On the asynchronous path the encoding block sends the encoded message or nothing,
and always returns early. -/
theorem encodeStage_async_path (config : Config) (addr abi msgParams : String)
    (ha : config.asyncCall = true) :
    let run := encodeStage env config addr abi msgParams false
    (loud run.log = [] ∨ ∃ enc, env.encodeMessage msgParams = .ok enc ∧
      loud run.log = [.sendMessage ⟨enc.message, some abi, false⟩]) ∧
      ∀ m, run.result ≠ .ok (.inr m) := by
  have hsend (m : String) := sendMessageAndWait_loud env (some abi) m ha
  rw [encodeStage_async env config addr abi msgParams ha]
  refine ⟨?_, fun m => ?_⟩
  · rw [(encodeInbound_quiet env _).loud_bind]
    split
    · next msg hI =>
      have he := encodeInbound_ok env hI
      split
      · rw [(emulateLocally_quiet env _ _ _).loud_bind]
        split
        · exact .inr ⟨msg, he, by simp [hsend]⟩
        · exact .inl rfl
      · exact .inr ⟨msg, he, by simp [hsend]⟩
    · exact .inl rfl
  · have hinl (y : Run Exit JsonValue) :
        (Sum.inl <$> y : Run Exit (JsonValue ⊕ Option String)).result ≠ .ok (.inr m) := by
      cases h : y.result <;> simp [h]
    refine result_bind_ne fun msg => ?_
    split
    · exact result_bind_ne fun _ => hinl _
    · exact hinl _

theorem encodeStage_fee_result (config : Config) (addr abi msgParams : String) :
    let run := encodeStage env config addr abi msgParams true
    (run.result = .ok (.inl .null) ∧ ∃ q r, .runExecutor q ∈ run.log ∧ env.runExecutor q = .ok r) ∨
      ∃ m, run.result = .error (.err m) := by
  rw [encodeStage_fee]
  rcases he : (encodeInbound env msgParams).result with x | msg
  · obtain ⟨m, rfl⟩ := encodeInbound_error env he
    exact .inr ⟨m, by simp [he]⟩
  · rcases emulateLocally_result env addr msg.message true with ⟨hok, q, r, hq, hr⟩ | ⟨m, hm⟩
    · exact .inl ⟨by simp [he, hok], q, r, by simp [he, hok, hq], hr⟩
    · exact .inr ⟨m, by simp [he, hm]⟩

theorem encodeStage_goes_on {config : Config} {addr abi msgParams : String} {isFee : Bool}
    {m : Option String} (h : (encodeStage env config addr abi msgParams isFee).result = .ok (.inr m)) :
    isFee = false ∧ config.asyncCall = false := by
  cases isFee
  · cases ha : config.asyncCall
    · exact ⟨rfl, rfl⟩
    · exact absurd h ((encodeStage_async_path env config addr abi msgParams ha).2 m)
  · rcases encodeStage_fee_result env config addr abi msgParams with ⟨h', -⟩ | ⟨_, h'⟩ <;>
      simp [h'] at h

theorem encodeStage_loud (config : Config) (addr abi msgParams : String) (isFee : Bool) :
    let run := encodeStage env config addr abi msgParams isFee
    loud run.log = [] ∨ ∃ enc, env.encodeMessage msgParams = .ok enc ∧
      loud run.log = [.sendMessage ⟨enc.message, some abi, false⟩] ∧ isFee = false ∧ config.asyncCall = true := by
  cases isFee
  · cases ha : config.asyncCall
    · exact .inl (encodeStage_quiet env config addr abi msgParams false (.inr ha)).loud_eq_nil
    · rcases (encodeStage_async_path env config addr abi msgParams ha).1 with h | ⟨enc, he, h⟩
      · exact .inl h
      · exact .inr ⟨enc, he, h, rfl, rfl⟩
  · exact .inl (encodeStage_quiet env config addr abi msgParams true (.inl rfl)).loud_eq_nil

/-! ## Submission -/

@[simp] theorem printExpireAt_result (config : Config) (expireAt : UInt32) :
    (printExpireAt env config expireAt).result = .ok () := by
  unfold printExpireAt; split <;> simp

theorem submitStage_loud (config : Config) (addr msgParams : String) (expireAt : UInt32)
    (message : Option String) :
    let run := submitStage env config addr msgParams expireAt message
    loud run.log = [] ∨
      loud run.log = (Effect.processed msgParams (config.debugFail && env.executionFailed msgParams)).events := by
  simp only [submitStage]
  rw [bind_ok (printExpireAt_result env config expireAt)]
  simp only [loud_append, (printExpireAt_quiet env config expireAt).loud_eq_nil, List.nil_append]
  rw [(captureDump_quiet env config addr message).loud_bind]
  split
  · refine .inr ?_
    rw [bind_ok (result_attempt _)]
    simp only [loud_append, log_attempt, log_bind_lift, processMessage_loud, replay_loud,
      isExecutionError_processMessage]
    rfl
  · exact .inl rfl

/-! ## The whole call -/

theorem prepareCall_error {config : Config} {addr abi method params : String} {keys : Option String}
    {x : Exit} (h : prepareCall env config addr abi method params keys = .error x) : ∃ m, x = .err m := by
  unfold prepareCall at h
  cases h1 : env.loadAbi abi with
  | error e => simp [h1] at h; exact ⟨e, h.symm⟩
  | ok abi' =>
    cases h2 : env.now with
    | error e => simp [h1, h2] at h; exact ⟨e, h.symm⟩
    | ok now =>
      cases h3 : env.prepareMessageParams addr abi' method params
          ⟨some (config.lifetime + now), some (env.nowMs 0)⟩ keys with
      | error e => simp [h1, h2, h3] at h; exact ⟨e, h.symm⟩
      | ok p => simp [h1, h2, h3] at h

theorem callContractWithClient_prepared {config : Config} {addr abi method params : String}
    {keys : Option String} {isFee : Bool} {abi' msgParams : String} {expireAt : UInt32}
    (h : prepareCall env config addr abi method params keys = .ok (abi', expireAt, msgParams)) :
    callContractWithClient env config addr abi method params keys isFee =
      encodeStage env config addr abi' msgParams isFee >>=
        Sum.elim pure (submitStage env config addr msgParams expireAt) := by
  simp only [callContractWithClient, h, lift_ok_bind]
  congr 1
  funext r
  cases r <;> rfl

/-- The call refines its abstract effect: its loud requests are the events of an
effect its configuration permits to the prepared call. -/
theorem callContractWithClient_effect (config : Config) (addr abi method params : String)
    (keys : Option String) (isFee : Bool) :
    ∃ eff : Effect,
      loud (callContractWithClient env config addr abi method params keys isFee).log = eff.events ∧
        (eff = .none ∨ ∃ abi' expireAt msgParams,
          prepareCall env config addr abi method params keys = .ok (abi', expireAt, msgParams) ∧
            eff.Allowed env config isFee abi' msgParams) := by
  rcases hp : prepareCall env config addr abi method params keys with x | ⟨abi', expireAt, msgParams⟩
  · exact ⟨.none, by simp [callContractWithClient, hp, Effect.events], .inl rfl⟩
  · rw [callContractWithClient_prepared env hp, Run.log_bind, loud_append]
    obtain ⟨eff, h, hA⟩ : ∃ eff : Effect,
        loud (encodeStage env config addr abi' msgParams isFee).log = eff.events ∧
          eff.Allowed env config isFee abi' msgParams := by
      rcases encodeStage_loud env config addr abi' msgParams isFee with h | ⟨enc, he, h, hf, ha⟩
      exacts [⟨.none, h, trivial⟩, ⟨.sent _, h, hf, ha, enc, he, rfl⟩]
    rcases hE : (encodeStage env config addr abi' msgParams isFee).result with x | v | m
    · exact ⟨eff, by simp [h], .inr ⟨abi', expireAt, msgParams, rfl, hA⟩⟩
    · exact ⟨eff, by simp [h], .inr ⟨abi', expireAt, msgParams, rfl, hA⟩⟩
    · obtain ⟨hf, ha⟩ := encodeStage_goes_on env hE
      have hq := (encodeStage_quiet env config addr abi' msgParams isFee (.inr ha)).loud_eq_nil
      rcases submitStage_loud env config addr msgParams expireAt m with h | h
      · exact ⟨.none, by simp [hq, h, Effect.events], .inl rfl⟩
      · exact ⟨.processed msgParams _, by simp [hq, h], .inr ⟨abi', expireAt, msgParams, rfl, hf, ha, rfl, rfl⟩⟩

/-- In fee mode the call ends with `Ok(Null)` once the executor has run the message,
or with an `Err`. -/
theorem callContractWithClient_fee_result (config : Config) (addr abi method params : String)
    (keys : Option String) :
    let run := callContractWithClient env config addr abi method params keys true
    (run.result = .ok .null ∧ ∃ q r, .runExecutor q ∈ run.log ∧ env.runExecutor q = .ok r) ∨
      ∃ m, run.result = .error (.err m) := by
  rcases hp : prepareCall env config addr abi method params keys with x | ⟨abi', expireAt, msgParams⟩
  · obtain ⟨m, rfl⟩ := prepareCall_error env hp
    exact .inr ⟨m, by simp [callContractWithClient, hp]⟩
  · rw [callContractWithClient_prepared env hp]
    rcases encodeStage_fee_result env config addr abi' msgParams with ⟨hok, q, r, hq, hr⟩ | ⟨m, hm⟩
    · rw [bind_ok hok]
      exact .inl ⟨rfl, q, r, List.mem_append_left _ hq, hr⟩
    · exact .inr ⟨m, by simp [hm]⟩

theorem callContractWithClient_submits_at_most_once (config : Config) (addr abi method params : String)
    (keys : Option String) (isFee : Bool) :
    let run := callContractWithClient env config addr abi method params keys isFee
    run.log.countP Event.submits ≤ 1 ∧
    (isFee = true → run.log.countP Event.submits = 0 ∧
      ((run.result = .ok .null ∧ ∃ q r, .runExecutor q ∈ run.log ∧ env.runExecutor q = .ok r) ∨
        ∃ m, run.result = .error (.err m))) ∧
    (config.asyncCall = true → ∀ p, .waitForTransaction p ∉ run.log) ∧
    (.replay ∈ run.log ↔ config.debugFail = true ∧
      ∃ q e, .processMessage q ∈ run.log ∧ (env.processMessage q).2 = .error e ∧
        e.code = env.sdkExecutionErrorCode) := by
  obtain ⟨eff, h, hA⟩ := callContractWithClient_effect env config addr abi method params keys isFee
  obtain ⟨abi', msgParams, hA⟩ : ∃ abi' msgParams, eff.Allowed env config isFee abi' msgParams := by
    rcases hA with rfl | ⟨abi', -, msgParams, -, hA⟩
    exacts [⟨"", "", trivial⟩, ⟨abi', msgParams, hA⟩]
  have hcount := countP_submits_loud (callContractWithClient env config addr abi method params keys isFee).log
  have hp (q : String) := mem_iff_of_loud_eq h (.processMessage q) rfl
  refine ⟨?_, fun hf => ⟨?_, ?_⟩, fun _ p => ?_, ?_⟩
  · rw [← hcount, h]
    exact eff.countP_submits_le
  · subst hf
    rw [← hcount, h, Effect.eq_none_of_fee hA]
    rfl
  · subst hf
    exact callContractWithClient_fee_result env config addr abi method params keys
  · rw [mem_iff_of_loud_eq h (.waitForTransaction p) rfl]
    exact eff.waitForTransaction_not_mem p
  · rw [mem_iff_of_loud_eq h .replay rfl, Effect.replay_mem_iff hA]
    simp only [hp]

/-- The call never waits for a transaction, and what it hands to the network, or does
because of the network's answer, is nothing; or, on the asynchronous path outside fee
mode, one `send_message` of the message encoded from the prepared parameters, with
the loaded ABI; or, off that path, one `process_message` of the prepared parameters,
followed by the replay exactly when `debug_fail` is set and processing failed with
the execution error code. -/
theorem callContractWithClient_hands_over (config : Config) (addr abi method params : String)
    (keys : Option String) (isFee : Bool) :
    let run := callContractWithClient env config addr abi method params keys isFee
    (∀ p, .waitForTransaction p ∉ run.log) ∧
      (loud run.log = [] ∨
        ∃ abi' expireAt msgParams,
          prepareCall env config addr abi method params keys = .ok (abi', expireAt, msgParams) ∧ isFee = false ∧
            ((config.asyncCall = true ∧ ∃ enc, env.encodeMessage msgParams = .ok enc ∧
                loud run.log = [.sendMessage ⟨enc.message, some abi', false⟩]) ∨
              (config.asyncCall = false ∧ loud run.log = .processMessage msgParams ::
                if config.debugFail && env.executionFailed msgParams then [.replay] else []))) := by
  obtain ⟨eff, h, hA⟩ := callContractWithClient_effect env config addr abi method params keys isFee
  refine ⟨fun p => ?_, ?_⟩
  · rw [mem_iff_of_loud_eq h (.waitForTransaction p) rfl]
    exact eff.waitForTransaction_not_mem p
  · rw [h]
    rcases hA with rfl | ⟨abi', expireAt, msgParams, hp, hA⟩
    · exact .inl rfl
    · cases eff with
      | none => exact .inl rfl
      | sent p =>
        obtain ⟨hf, ha, enc, he, rfl⟩ := hA
        exact .inr ⟨abi', expireAt, msgParams, hp, hf, .inl ⟨ha, enc, he, rfl⟩⟩
      | processed q r =>
        obtain ⟨hf, ha, rfl, rfl⟩ := hA
        exact .inr ⟨abi', expireAt, _, hp, hf, .inr ⟨ha, rfl⟩⟩

end EvsCli
