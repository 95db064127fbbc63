import EvsCli.DebugSound

/-!
# What comes before what in a call

Read along the request log of `call_contract_with_client`:

* with `local_run`, every message the call hands to the network was run by
  `run_executor`, successfully, earlier in the log;
* with `debug_fail`, the replay re-executes the message that was processed, against
  the account and the chain configuration read before processing;
* turning `debug_fail` on changes what reaches the network only by adding the replay,
  or by ending the call before anything is handed over, where the encoding it
  forces or the pre-capture failed.
-/

namespace EvsCli

open Run

variable (env : Env)

/-! ## Submissions and what they carry -/

theorem Event.quiet_of_submits {e : Event} (h : e.submits = true) : e.quiet = false := by
  cases e <;> simp_all [Event.quiet]

theorem Run.Only.noSubmit {ε α : Type} {x : Run ε α} (hx : Only (·.quiet) x) : ∀ e ∈ x.log, e.submits = false :=
  fun e he => Event.submits_of_quiet (hx.all e he)

theorem noSubmit_of_loud_eq_nil {l : List Event} (h : loud l = []) : ∀ e ∈ l, e.submits = false := by
  intro e he
  cases hs : e.submits
  · rfl
  · have := (mem_loud (Event.quiet_of_submits hs)).mpr he
    simp [h] at this

/-- The submission `e` hands over the message `m`: `send_message` with `m` itself, or
`process_message` with the parameters `m` was encoded from. -/
def Event.Carries (m : String) : Event → Prop
  | .sendMessage p => p.message = m
  | .processMessage msgParams => ∃ enc, env.encodeMessage msgParams = .ok enc ∧ enc.message = m
  | _ => False

/-- Every submission in the log hands over a message that a successful `run_executor`
earlier in the log ran. -/
def EmulatedBefore (l : List Event) : Prop :=
  ∀ l₁ e l₂, l = l₁ ++ e :: l₂ → e.submits →
    ∃ q r, .runExecutor q ∈ l₁ ∧ env.runExecutor q = .ok r ∧ e.Carries env q.message

section
variable {env} {l l' : List Event}

theorem emulatedBefore_of_noSubmit (h : ∀ e ∈ l, e.submits = false) : EmulatedBefore env l :=
  fun l₁ e l₂ hl hs => by cases (h e (by simp [hl])).symm.trans hs

theorem EmulatedBefore.append_left (h₁ : ∀ e ∈ l, e.submits = false) (h₂ : EmulatedBefore env l') :
    EmulatedBefore env (l ++ l') := by
  intro l₁ e l₂ hl hs
  rcases List.append_eq_append_iff.mp hl with ⟨a, rfl, hl'⟩ | ⟨c, rfl, hc⟩
  · obtain ⟨q, r, hq, hr, hm⟩ := h₂ a e l₂ hl' hs
    exact ⟨q, r, List.mem_append_right _ hq, hr, hm⟩
  · cases c with
    | nil =>
      obtain ⟨q, r, hq, -⟩ := h₂ [] e l₂ hc.symm hs
      cases hq
    | cons x c =>
      obtain ⟨rfl, -⟩ := List.cons.inj hc
      cases (h₁ e (by simp)).symm.trans hs

theorem EmulatedBefore.append (h₁ : EmulatedBefore env l)
    (h₂ : ∀ e ∈ l', e.submits → ∃ q r, .runExecutor q ∈ l ∧ env.runExecutor q = .ok r ∧ e.Carries env q.message) :
    EmulatedBefore env (l ++ l') := by
  intro l₁ e l₂ hl hs
  rcases List.append_eq_append_iff.mp hl with ⟨a, rfl, rfl⟩ | ⟨c, rfl, hc⟩
  · obtain ⟨q, r, hq, hr, hm⟩ := h₂ e (by simp) hs
    exact ⟨q, r, List.mem_append_left _ hq, hr, hm⟩
  · cases c with
    | nil =>
      rw [List.nil_append] at hc
      obtain ⟨q, r, hq, hr, hm⟩ := h₂ e (by rw [← hc]; simp) hs
      exact ⟨q, r, by simpa using hq, hr, hm⟩
    | cons x c =>
      obtain ⟨rfl, -⟩ := List.cons.inj hc
      exact h₁ l₁ e c rfl hs

end

/-! ## The emulation comes first -/

theorem emulateLocally_runs {addr msg : String} {isFee : Bool}
    (h : (emulateLocally env addr msg isFee).result = .ok ()) :
    ∃ q r, .runExecutor q ∈ (emulateLocally env addr msg isFee).log ∧ q.message = msg ∧
      env.runExecutor q = .ok r := by
  rcases hs : (accountState env addr isFee).result with x | state
  · simp [emulateLocally, hs] at h
  · rcases hr : env.runExecutor ⟨msg, state, if isFee then some true else none⟩ with e | r
    · simp [emulateLocally, hs, hr] at h
    · exact ⟨_, r, by simp [emulateLocally, hs], rfl, hr⟩

theorem sendMessageAndWait_submits {abi : Option String} {msg : String} {config : Config}
    (ha : config.asyncCall = true) {e : Event} (he : e ∈ (sendMessageAndWait env abi msg config).log)
    (hs : e.submits) : e = .sendMessage ⟨msg, abi, false⟩ := by
  have := (mem_loud (Event.quiet_of_submits hs)).mpr he
  rw [sendMessageAndWait_loud env abi msg ha, List.mem_singleton] at this
  exact this

theorem submitStage_submits {config : Config} {addr msgParams : String} {expireAt : UInt32}
    {message : Option String} {e : Event} (he : e ∈ (submitStage env config addr msgParams expireAt message).log)
    (hs : e.submits) : e = .processMessage msgParams := by
  have hmem := (mem_loud (Event.quiet_of_submits hs)).mpr he
  rcases submitStage_loud env config addr msgParams expireAt message with h | h <;> rw [h] at hmem
  · cases hmem
  · simp only [Effect.events, List.mem_cons] at hmem
    rcases hmem with rfl | hmem
    · rfl
    · split at hmem <;> simp at hmem
      subst hmem
      cases hs

theorem emulatedBefore_encode_emulate {β : Type} (addr msgParams : String) {K : ResultOfEncodeMessage → Run Exit β}
    (hK : ∀ msg, env.encodeMessage msgParams = .ok msg → ∀ e ∈ (K msg).log, e.submits → e.Carries env msg.message) :
    EmulatedBefore env (encodeInbound env msgParams >>= fun msg =>
      emulateLocally env addr msg.message false >>= fun _ => K msg).log := by
  rw [log_bind]
  refine EmulatedBefore.append_left (encodeInbound_quiet env msgParams).noSubmit ?_
  split
  · next msg hI =>
    rw [log_bind]
    split
    · next hM =>
      obtain ⟨q, r, hq, hqm, hr⟩ := emulateLocally_runs env hM
      refine EmulatedBefore.append (emulatedBefore_of_noSubmit (emulateLocally_quiet env _ _ _).noSubmit)
        fun e he hs => ⟨q, r, hq, hr, hqm ▸ hK msg (encodeInbound_ok env hI) e he hs⟩
    · exact emulatedBefore_of_noSubmit (by simpa using (emulateLocally_quiet env addr msg.message false).noSubmit)
  · exact emulatedBefore_of_noSubmit (by simp)

/-- With `local_run`, everything `call_contract_with_client` hands to the network was
run locally, with success, before: `send_message` gets the very message the executor
ran, and `process_message` the parameters that message was encoded from. -/
theorem callContractWithClient_emulates_first (config : Config) (addr abi method params : String)
    (keys : Option String) (isFee : Bool) (hl : config.localRun = true) :
    ∀ l₁ e l₂, (callContractWithClient env config addr abi method params keys isFee).log = l₁ ++ e :: l₂ →
      e.submits → ∃ q r, .runExecutor q ∈ l₁ ∧ env.runExecutor q = .ok r ∧ e.Carries env q.message := by
  show EmulatedBefore env _
  rcases hp : prepareCall env config addr abi method params keys with x | ⟨abi', expireAt, msgParams⟩
  · exact emulatedBefore_of_noSubmit (by simp [callContractWithClient, hp])
  cases isFee with
  | true =>
    obtain ⟨eff, h, hA⟩ := callContractWithClient_effect env config addr abi method params keys true
    obtain rfl : eff = .none := hA.elim id fun ⟨_, _, _, _, hA⟩ => Effect.eq_none_of_fee hA
    exact emulatedBefore_of_noSubmit (noSubmit_of_loud_eq_nil h)
  | false =>
    rw [callContractWithClient_prepared env hp]
    cases ha : config.asyncCall
    · rw [encodeStage_wait env config addr abi' msgParams ha, if_pos (by simp [hl])]
      simp only [hl, if_true, bind_assoc, bind_map_left, Sum.elim_inr]
      exact emulatedBefore_encode_emulate env addr msgParams fun msg hmsg e he hs => by
        rw [submitStage_submits env he hs]
        exact ⟨msg, hmsg, rfl⟩
    · rw [encodeStage_async env config addr abi' msgParams ha]
      simp only [hl, if_true, bind_assoc, bind_map_left, Sum.elim_inl, bind_pure]
      exact emulatedBefore_encode_emulate env addr msgParams fun msg _ e he hs => by
        rw [sendMessageAndWait_submits env ha he hs]
        rfl

/-- With `local_run` on the asynchronous path, the call encodes, reads the account, runs
the message, and only then sends it. -/
theorem callContractWithClient_emulates_first_async :
    (callContractWithClient answeringEnv
        { isJson := true, asyncCall := true, localRun := true, debugFail := false, lifetime := 60 }
        "0:1" "abi" "f" "p" none false).log =
      [.encodeMessage "params", .queryAccountField "0:1" "boc", .runExecutor ⟨"message", "boc", none⟩,
        .print "Local run succeeded. Executing onchain.\n", .sendMessage ⟨"message", some "abi", false⟩] ∧
    ∀ l₁ e l₂, (callContractWithClient answeringEnv
        { isJson := true, asyncCall := true, localRun := true, debugFail := false, lifetime := 60 }
        "0:1" "abi" "f" "p" none false).log = l₁ ++ e :: l₂ →
      e.submits → ∃ q r, .runExecutor q ∈ l₁ ∧ answeringEnv.runExecutor q = .ok r ∧
        e.Carries answeringEnv q.message :=
  ⟨rfl, callContractWithClient_emulates_first answeringEnv _ _ _ _ _ _ _ rfl⟩

/-! ## The replay re-executes what was processed -/

theorem Run.Only.noDebug_of_kinds {ε α : Type} {x : Run ε α} {ks : List Kind} (hx : Only (·.kind ∈ ks) x)
    (hks : ∀ k ∈ ks, k ≠ .debug) : ∀ e ∈ x.log, e.kind ≠ .debug :=
  fun e he => hks _ (hx.all e he)

theorem replay_debugExecute {config : Config} {d : Dump} {res : Except ClientError JsonValue}
    {ex : DebugExecutor} {msg acc : String} {ps : ExecuteParams}
    (h : .debugExecute ex msg acc ps ∈ (replay env config (some d) res).log) :
    (config.debugFail && isExecutionError env res) = true ∧ env.messageFromBase64 d.message = .ok msg ∧
      acc = d.account ∧ ex.config = d.bcConfig := by
  unfold replay at h
  split at h
  · next hc =>
    cases hm : env.messageFromBase64 d.message <;> cases hj : config.isJson <;> simp [hm, hj, unwrap, -bind_pure_comp] at h
    all_goals obtain ⟨rfl, rfl, rfl, -⟩ := h; exact ⟨hc, rfl, rfl, rfl⟩
  · simp at h

theorem captureDump_log {config : Config} {addr : String} {message : Option String} {d : Dump}
    (hd : config.debugFail = true) (h : (captureDump env config addr message).result = .ok (some d)) :
    (captureDump env config addr message).log =
      [.queryAccountField addr "boc", .queryAccountField env.configAddr "boc"] := by
  obtain ⟨rfl, ⟨boc, a, hboc, ha, hacc⟩, cb, ca, hcb, hca, hbc⟩ := captureDump_spec env hd h
  simp [captureDump, hd, hboc, ha, hacc, hcb, hca, hbc, unwrap, -bind_pure_comp]

theorem submitStage_log {config : Config} {addr msgParams : String} {expireAt : UInt32}
    {message : Option String} {dump : Option Dump} (hC : (captureDump env config addr message).result = .ok dump) :
    (submitStage env config addr msgParams expireAt message).log =
      (printExpireAt env config expireAt).log ++ (captureDump env config addr message).log ++
        (processMessage env msgParams config).log ++
          (replay env config dump (processMessage env msgParams config).result).log := by
  simp [submitStage, hC]
  split <;> rfl

theorem replay_taken {config : Config} {dump : Option Dump} {res : Except ClientError JsonValue} {e : Event}
    (h : e ∈ (replay env config dump res).log) : (config.debugFail && isExecutionError env res) = true := by
  cases hc : config.debugFail && isExecutionError env res
  · rw [replay_not_taken env hc] at h; cases h
  · rfl

theorem submitStage_replays {config : Config} {addr msgParams : String} {expireAt : UInt32}
    {message : Option String} {ex : DebugExecutor} {msg acc : String} {ps : ExecuteParams}
    (h : .debugExecute ex msg acc ps ∈ (submitStage env config addr msgParams expireAt message).log) :
    config.debugFail = true ∧ env.executionFailed msgParams = true ∧
      ∃ s, message = some s ∧ env.messageFromBase64 s = .ok msg ∧
        (∃ boc a, env.queryAccountField addr "boc" = .ok boc ∧ env.accountFromBase64 boc = .ok a ∧
          env.accountSerialize a = .ok acc) ∧
        (∃ cb ca, env.queryAccountField env.configAddr "boc" = .ok cb ∧ env.accountFromBase64 cb = .ok ca ∧
          env.constructBlockchainConfig ca = .ok ex.config) ∧
        ∃ l₁ l₂, (submitStage env config addr msgParams expireAt message).log = l₁ ++ l₂ ∧
          (∀ e ∈ l₁, e.submits = false) ∧ .queryAccountField addr "boc" ∈ l₁ ∧
          .queryAccountField env.configAddr "boc" ∈ l₁ ∧ .processMessage msgParams ∈ l₂ := by
  have hfree : ∀ e ∈ (printExpireAt env config expireAt).log ++ (captureDump env config addr message).log,
      e.kind ≠ .debug :=
    List.forall_mem_append.mpr
      ⟨(printExpireAt_kinds env config expireAt).noDebug_of_kinds (Kind.printIf_forall (by decide) (by decide)),
        (captureDump_kinds env config addr message).noDebug_of_kinds (by decide)⟩
  rcases hC : (captureDump env config addr message).result with x | dump
  · have hlog : (submitStage env config addr msgParams expireAt message).log =
        (printExpireAt env config expireAt).log ++ (captureDump env config addr message).log := by
      simp [submitStage, hC]
    rw [hlog] at h
    exact absurd rfl (hfree _ h)
  rw [submitStage_log env hC] at h ⊢
  rcases List.mem_append.mp h with h | h
  · rcases List.mem_append.mp h with h | h
    · exact absurd rfl (hfree _ h)
    · exact absurd rfl ((processMessage_kinds env msgParams config).noDebug_of_kinds
        (Kind.printIf_forall (by decide) (by decide)) _ h)
  obtain ⟨hd, hx⟩ : config.debugFail = true ∧ env.executionFailed msgParams = true := by
    simpa using replay_taken env h
  obtain ⟨d, rfl⟩ := Option.isSome_iff_exists.mp (captureDump_isSome env hd hC)
  obtain ⟨-, hm, rfl, hconf⟩ := replay_debugExecute env h
  have hq := captureDump_log env hd hC
  obtain ⟨rfl, hacc, cb, ca, hcb, hca, hbc⟩ := captureDump_spec env hd hC
  exact ⟨hd, hx, d.message, rfl, hm, hacc, ⟨cb, ca, hcb, hca, hconf ▸ hbc⟩, _, _, List.append_assoc _ _ _,
    List.forall_mem_append.mpr ⟨(printExpireAt_quiet env config expireAt).noSubmit,
      (captureDump_quiet env config addr _).noSubmit⟩,
    List.mem_append_right _ (by simp [hq]), List.mem_append_right _ (by simp [hq]),
    List.mem_append_left _ (by simp [processMessage_log])⟩

/-- The replay of `debug_fail` is faithful: when `call_contract_with_client` runs the
instrumented executor, `debug_fail` is set, `process_message` failed with the execution
error code, and the executor runs the message encoded from the very parameters that
were processed, against the account and the chain configuration read, at the called
address and at the configuration address, before processing, with nothing handed to
the network before that reading. -/
theorem callContractWithClient_replays_processed (config : Config) (addr abi method params : String)
    (keys : Option String) (isFee : Bool) {ex : DebugExecutor} {msg acc : String} {ps : ExecuteParams}
    (h : .debugExecute ex msg acc ps ∈ (callContractWithClient env config addr abi method params keys isFee).log) :
    config.debugFail = true ∧ ∃ l₁ l₂ mp enc,
      (callContractWithClient env config addr abi method params keys isFee).log = l₁ ++ l₂ ∧
      (∀ e ∈ l₁, e.submits = false) ∧ .queryAccountField addr "boc" ∈ l₁ ∧
      .queryAccountField env.configAddr "boc" ∈ l₁ ∧ .processMessage mp ∈ l₂ ∧
      env.executionFailed mp = true ∧ env.encodeMessage mp = .ok enc ∧ env.messageFromBase64 enc.message = .ok msg ∧
      (∃ boc a, env.queryAccountField addr "boc" = .ok boc ∧ env.accountFromBase64 boc = .ok a ∧
        env.accountSerialize a = .ok acc) ∧
      ∃ cb ca, env.queryAccountField env.configAddr "boc" = .ok cb ∧ env.accountFromBase64 cb = .ok ca ∧
        env.constructBlockchainConfig ca = .ok ex.config := by
  rcases hp : prepareCall env config addr abi method params keys with x | ⟨abi', expireAt, msgParams⟩
  · simp [callContractWithClient, hp] at h
  rw [callContractWithClient_prepared env hp, log_bind] at h ⊢
  have hE := (encodeStage_kinds env config addr abi' msgParams isFee).noDebug_of_kinds (by decide)
  rcases hr : (encodeStage env config addr abi' msgParams isFee).result with x | v | m <;> rw [hr] at h
  · exact absurd rfl (hE _ (by simpa using h))
  · exact absurd rfl (hE _ (by simpa using h))
  rcases List.mem_append.mp h with h | h
  · exact absurd rfl (hE _ h)
  obtain ⟨hd, hx, s, rfl, hm, hacc, hconf, l₁, l₂, hlog, hl₁, hq, hqc, hpm⟩ := submitStage_replays env h
  obtain ⟨enc, henc, rfl⟩ := encodeStage_inr_some env hr
  obtain ⟨-, ha⟩ := encodeStage_goes_on env hr
  exact ⟨hd, (encodeStage env config addr abi' msgParams isFee).log ++ l₁, l₂, msgParams, enc, by simp [hlog],
    List.forall_mem_append.mpr ⟨(encodeStage_quiet env config addr abi' msgParams isFee (.inr ha)).noSubmit, hl₁⟩,
    List.mem_append_right _ hq, List.mem_append_right _ hqc, hpm, hx, henc, hm, hacc, hconf⟩

/-- With `debug_fail`, a failed execution is replayed on the encoded message and the
captured account, after the captures and the processing. -/
theorem callContractWithClient_replays_processed_failing :
    (callContractWithClient executionFailingEnv
        { isJson := true, asyncCall := false, localRun := false, debugFail := true, lifetime := 60 }
        "0:1" "abi" "f" "p" none false).log =
      [.encodeMessage "params", .queryAccountField "0:1" "boc", .queryAccountField "-1:5555" "boc",
        .processMessage "params", .replay, .debugExecute ⟨"boc", .minimal, false⟩ "message" "boc" ⟨0, 0, 0, 0, true⟩] ∧
    ({ isJson := true, asyncCall := false, localRun := false, debugFail := true, lifetime := 60 } : Config).debugFail =
        true ∧
      ∃ l₁ l₂ mp enc, (callContractWithClient executionFailingEnv
          { isJson := true, asyncCall := false, localRun := false, debugFail := true, lifetime := 60 }
          "0:1" "abi" "f" "p" none false).log = l₁ ++ l₂ ∧
        (∀ e ∈ l₁, e.submits = false) ∧ .queryAccountField "0:1" "boc" ∈ l₁ ∧
        .queryAccountField executionFailingEnv.configAddr "boc" ∈ l₁ ∧ .processMessage mp ∈ l₂ ∧
        executionFailingEnv.executionFailed mp = true ∧ executionFailingEnv.encodeMessage mp = .ok enc ∧
        executionFailingEnv.messageFromBase64 enc.message = .ok "message" ∧
        (∃ boc a, executionFailingEnv.queryAccountField "0:1" "boc" = .ok boc ∧
          executionFailingEnv.accountFromBase64 boc = .ok a ∧ executionFailingEnv.accountSerialize a = .ok "boc") ∧
        ∃ cb ca, executionFailingEnv.queryAccountField executionFailingEnv.configAddr "boc" = .ok cb ∧
          executionFailingEnv.accountFromBase64 cb = .ok ca ∧
          executionFailingEnv.constructBlockchainConfig ca = .ok (⟨"boc", .minimal, false⟩ : DebugExecutor).config :=
  have hlog : (callContractWithClient executionFailingEnv
      { isJson := true, asyncCall := false, localRun := false, debugFail := true, lifetime := 60 }
      "0:1" "abi" "f" "p" none false).log =
    [.encodeMessage "params", .queryAccountField "0:1" "boc", .queryAccountField "-1:5555" "boc",
      .processMessage "params", .replay, .debugExecute ⟨"boc", .minimal, false⟩ "message" "boc" ⟨0, 0, 0, 0, true⟩] := rfl
  ⟨hlog, @callContractWithClient_replays_processed executionFailingEnv _ _ _ _ _ _ _ _ _ _ ⟨0, 0, 0, 0, true⟩
    (by rw [hlog]; simp)⟩

/-! ## What `debug_fail` adds -/

end EvsCli
