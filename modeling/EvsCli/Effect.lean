import EvsCli.Client

/-!
# What a call does to the network

Of the requests `call_contract_with_client` makes, four kinds act on the network or
follow from what it answered: sending the message, processing it, waiting for its
transaction, and entering the instrumented replay. They are the loud requests; the
others (encoding, account queries, local emulation, printing) are quiet.

The effect of a call is the word its loud requests form. It has one of three
shapes: nothing; one `send_message`; or one `process_message`, followed by the
replay or not. `Effect.Allowed` says which effects a configuration permits to a
prepared call, with their data: the message sent is the one encoded from the
prepared parameters, and the parameters processed are the prepared ones. The facts
below are what every permitted effect satisfies. The call itself is
connected to this view in `EvsCli.CallSound`.
-/

namespace EvsCli

/-- Neither hands a message to the network, nor waits for a transaction, nor enters
the replay. -/
def Event.quiet : Event → Bool
  | .sendMessage _ | .processMessage _ | .waitForTransaction _ | .replay => false
  | _ => true

theorem Event.submits_of_quiet {e : Event} (h : e.quiet = true) : e.submits = false := by
  cases e <;> simp_all [Event.quiet]

def Kind.quiet : Kind → Bool
  | .send | .process | .wait | .replay => false
  | _ => true

theorem Event.quiet_eq_kind (e : Event) : e.quiet = e.kind.quiet := by
  cases e <;> rfl

theorem Run.Only.quiet_of_kinds {ε α : Type} {ks : List Kind} {x : Run ε α} (hx : Run.Only (·.kind ∈ ks) x)
    (hks : ∀ k ∈ ks, k.quiet = true) : Run.Only (·.quiet) x :=
  hx.mono fun e he => (Event.quiet_eq_kind e).trans (hks _ he)

/-- The loud requests of a log, in order. -/
def loud (l : List Event) : List Event := l.filter (!·.quiet)

@[simp] theorem loud_nil : loud [] = [] := rfl

@[simp] theorem loud_append (l l' : List Event) : loud (l ++ l') = loud l ++ loud l' :=
  List.filter_append _ _

@[simp] theorem loud_cons (e : Event) (l : List Event) :
    loud (e :: l) = if e.quiet then loud l else e :: loud l := by
  cases h : e.quiet <;> simp [loud, List.filter_cons, h]

theorem mem_loud {e : Event} {l : List Event} (h : e.quiet = false) : e ∈ loud l ↔ e ∈ l := by
  simp [loud, h]

theorem countP_submits_loud (l : List Event) : (loud l).countP Event.submits = l.countP Event.submits := by
  rw [loud, List.countP_filter]
  refine List.countP_congr fun e _ => ?_
  cases e <;> simp [Event.quiet]

theorem Run.Only.loud_eq_nil {ε α : Type} {x : Run ε α} (hx : Run.Only (·.quiet) x) : loud x.log = [] :=
  List.filter_eq_nil_iff.mpr fun e he => by simp [hx.all e he]

theorem Run.Only.loud_bind {ε α β : Type} {x : Run ε α} {f : α → Run ε β} (hx : Run.Only (·.quiet) x) :
    loud (x >>= f).log = match x.result with
      | .ok a => loud (f a).log
      | .error _ => [] := by
  rw [Run.log_bind, loud_append, hx.loud_eq_nil, List.nil_append]
  cases h : x.result <;> simp [h]

theorem loud_bind_of_quiet {ε α β : Type} {x : Run ε α} {f : α → Run ε β}
    (hf : ∀ a, Run.Only (·.quiet) (f a)) : loud (x >>= f).log = loud x.log := by
  rw [Run.log_bind, loud_append]
  split
  · rw [(hf _).loud_eq_nil, List.append_nil]
  · rw [loud_nil, List.append_nil]

/-- `process_message` answered with the SDK's execution error. -/
def Env.executionFailed (env : Env) (msgParams : String) : Bool :=
  match (env.processMessage msgParams).2 with
  | .error e => e.code == env.sdkExecutionErrorCode
  | .ok _ => false

theorem Env.executionFailed_iff {env : Env} {msgParams : String} :
    env.executionFailed msgParams = true ↔
      ∃ e, (env.processMessage msgParams).2 = .error e ∧ e.code = env.sdkExecutionErrorCode := by
  unfold Env.executionFailed
  split <;> simp_all

/-! ## Effects -/

/-- What one call does to the network. -/
inductive Effect where
  /-- Nothing is handed to the network. -/
  | none
  /-- The message is sent; the call does not wait for its transaction. -/
  | sent (params : ParamsOfSendMessage)
  /-- The message is processed, and the replay follows if `replayed`. -/
  | processed (msgParams : String) (replayed : Bool)
  deriving Repr, DecidableEq

def Effect.events : Effect → List Event
  | .none => []
  | .sent params => [.sendMessage params]
  | .processed msgParams replayed => .processMessage msgParams :: if replayed then [.replay] else []

theorem mem_iff_of_loud_eq {l : List Event} {eff : Effect} (h : loud l = eff.events) (e : Event)
    (he : e.quiet = false) : e ∈ l ↔ e ∈ eff.events := by
  rw [← h, mem_loud he]

/-- The effects a configuration permits to a call that prepared the ABI `abi` and the
encoding parameters `msgParams`: nothing is handed over in fee mode; on the
asynchronous path the message encoded from `msgParams` is sent with `abi`; off it
`msgParams` are processed, and the replay follows exactly when `debug_fail` is set
and processing failed with the execution error code. -/
def Effect.Allowed (env : Env) (config : Config) (isFee : Bool) (abi msgParams : String) : Effect → Prop
  | .none => True
  | .sent p => isFee = false ∧ config.asyncCall = true ∧
      ∃ enc, env.encodeMessage msgParams = .ok enc ∧ p = ⟨enc.message, some abi, false⟩
  | .processed q replayed => isFee = false ∧ config.asyncCall = false ∧ q = msgParams ∧
      replayed = (config.debugFail && env.executionFailed msgParams)

instance (env : Env) (config : Config) (isFee : Bool) (abi msgParams : String) :
    ∀ eff : Effect, Decidable (eff.Allowed env config isFee abi msgParams)
  | .none => inferInstanceAs (Decidable True)
  | .sent p => decidable_of_iff (isFee = false ∧ config.asyncCall = true ∧
      (env.encodeMessage msgParams).toOption.map (fun enc => ⟨enc.message, some abi, false⟩) = some p)
      (by unfold Effect.Allowed; cases env.encodeMessage msgParams <;> simp [Except.toOption, @eq_comm _ p])
  | .processed _ _ => inferInstanceAs (Decidable (_ ∧ _ ∧ _ ∧ _))

section
variable {env : Env} {config : Config} {isFee : Bool} {abi msgParams : String}

theorem Effect.countP_submits_le (eff : Effect) : eff.events.countP Event.submits ≤ 1 := by
  cases eff with
  | none => simp [Effect.events]
  | sent p => simp [Effect.events]
  | processed q r => cases r <;> simp [Effect.events]

theorem Effect.waitForTransaction_not_mem (eff : Effect) (p : ParamsOfWaitForTransaction) :
    .waitForTransaction p ∉ eff.events := by
  cases eff with
  | none => simp [Effect.events]
  | sent _ => simp [Effect.events]
  | processed q r => cases r <;> simp [Effect.events]

theorem Effect.eq_none_of_fee {eff : Effect} (h : eff.Allowed env config true abi msgParams) : eff = .none := by
  cases eff with
  | none => rfl
  | sent _ => exact absurd h.1 (by decide)
  | processed _ _ => exact absurd h.1 (by decide)

/-- The replay is entered exactly when `debug_fail` is set and processing failed with
the execution error code. -/
theorem Effect.replay_mem_iff {eff : Effect} (h : eff.Allowed env config isFee abi msgParams) :
    .replay ∈ eff.events ↔ config.debugFail = true ∧
      ∃ q e, .processMessage q ∈ eff.events ∧ (env.processMessage q).2 = .error e ∧
        e.code = env.sdkExecutionErrorCode := by
  cases eff with
  | none => simp [Effect.events]
  | sent _ => simp [Effect.events]
  | processed q r =>
    obtain ⟨-, -, rfl, rfl⟩ := h
    cases hd : config.debugFail <;> cases hf : env.executionFailed q <;>
      simp_all [Effect.events, ← Env.executionFailed_iff]

end

end EvsCli
