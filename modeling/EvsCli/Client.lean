import EvsCli.Json

/-!
# The world a call runs against

`call_contract_with_client` talks to the ton_client SDK (encoding, sending,
waiting, processing, local execution), to the account queries of
`crate::helpers`, to the ton_block codecs, to the replay's chain configuration and
instrumented executor, and to the clock. Each collaborator is a fixed answer to
each request: a field of `Env`. Library values the code only hands on (ABIs,
prepared parameters, BOCs, messages, chain configurations) are carried as their
serialized text, and a library error as its `Display` text. Records keep only
the fields the call reads.

A run of client code (`Run`) logs the requests it makes, in order, and ends with
a value or an early exit: `Err` or a panic. The model's only panic is `unwrap` on
`None`: `println!` is taken to succeed, where the source panics when standard
output cannot be written.
-/

namespace EvsCli

/-! ## SDK records -/

/-- `ton_client::error::ClientError`, without its `data`. -/
structure ClientError where
  code : UInt32
  message : String
  deriving Repr, DecidableEq

/-- `FunctionHeader` as `call_contract_with_client` sets it: the expiry in seconds
and the creation time in milliseconds; its `pubkey` stays `None`. -/
structure FunctionHeader where
  expire : Option UInt32
  time : Option UInt64
  deriving Repr, DecidableEq

structure ResultOfEncodeMessage where
  message : String
  deriving Repr, DecidableEq

structure EncodedMessage where
  message : String
  deriving Repr, DecidableEq

structure DecodedMessageBody where
  name : String
  value : Option JsonValue

structure DecodedOutput where
  output : Option JsonValue

-- `ResultOfProcessMessage` and `ResultOfWaitForTransaction`
structure ResultOfProcessing where
  decoded : Option DecodedOutput

structure ResultOfSendMessage where
  shardBlockId : String
  deriving Repr, DecidableEq

structure TransactionFees where
  inMsgFwdFee : UInt64
  storageFee : UInt64
  gasFee : UInt64
  outMsgsFwdFee : UInt64
  totalAccountFees : UInt64
  totalOutput : UInt64
  deriving Repr, DecidableEq

structure ResultOfRunExecutor where
  fees : TransactionFees
  deriving Repr, DecidableEq

/-- `ProcessingEvent`: `DidSend` is the only one the call's callback reads. -/
inductive ProcessingEvent where
  | didSend (shardBlockId messageId message : String)
  | other
  deriving Repr, DecidableEq

structure ParamsOfRunExecutor where
  message : String
  boc : String
  unlimitedBalance : Option Bool
  deriving Repr, DecidableEq

structure ParamsOfSendMessage where
  message : String
  abi : Option String
  sendEvents : Bool
  deriving Repr, DecidableEq

structure ParamsOfWaitForTransaction where
  abi : Option String
  message : String
  shardBlockId : String
  sendEvents : Bool
  deriving Repr, DecidableEq

inductive TraceLevel where
  | full
  | minimal
  | none
  deriving Repr, DecidableEq

-- the arguments of `DebugTransactionExecutor::new` but its (empty) libraries
structure DebugExecutor where
  config : String
  traceLevel : TraceLevel
  isGetter : Bool
  deriving Repr, DecidableEq

structure ExecuteParams where
  blockUnixtime : UInt32
  blockLt : UInt64
  lastTrLt : UInt64
  seedBlock : Nat
  debug : Bool
  deriving Repr, DecidableEq

structure Config where
  isJson : Bool
  asyncCall : Bool
  localRun : Bool
  debugFail : Bool
  lifetime : UInt32
  deriving Repr, DecidableEq

/-! ## Collaborators -/

/-- A request, as a run's log records it. `replay` marks the entry into the
instrumented replay block; `print` is a write to standard output. -/
inductive Event where
  | encodeMessage (params : String)
  | queryAccountField (addr field : String)
  | runExecutor (params : ParamsOfRunExecutor)
  | sendMessage (params : ParamsOfSendMessage)
  | waitForTransaction (params : ParamsOfWaitForTransaction)
  | processMessage (params : String)
  | decodeMessage (abi message : String)
  | debugExecute (executor : DebugExecutor) (message account : String) (params : ExecuteParams)
  | replay
  | print (text : String)
  deriving Repr, DecidableEq

@[simp] def Event.submits : Event → Bool
  | .sendMessage _ | .processMessage _ => true
  | _ => false

/-- What a request is, without its data. -/
inductive Kind where
  | encode | query | execute | send | wait | process | decode | debug | replay | print
  deriving Repr, DecidableEq

def Event.kind : Event → Kind
  | .encodeMessage _ => .encode
  | .queryAccountField _ _ => .query
  | .runExecutor _ => .execute
  | .sendMessage _ => .send
  | .waitForTransaction _ => .wait
  | .processMessage _ => .process
  | .decodeMessage _ _ => .decode
  | .debugExecute _ _ _ _ => .debug
  | .replay => .replay
  | .print _ => .print

/-- The kinds `ks`, and printing where `b` holds: what a block logs that prints only
outside JSON mode. -/
def Kind.printIf (b : Bool) (ks : List Kind) : List Kind := if b then .print :: ks else ks

theorem Kind.print_mem_printIf {b : Bool} (h : b = true) (ks : List Kind) : Kind.print ∈ printIf b ks := by
  simp [printIf, h]

theorem Kind.mem_printIf_of_mem {k : Kind} {ks : List Kind} (h : k ∈ ks) (b : Bool) : k ∈ printIf b ks := by
  unfold printIf; split <;> simp [h]

theorem Kind.printIf_forall {p : Kind → Prop} {b : Bool} {ks : List Kind} (hp : p .print) (h : ∀ k ∈ ks, p k) :
    ∀ k ∈ printIf b ks, p k := by
  unfold printIf; split <;> simp_all

theorem Kind.printIf_sub {b : Bool} {ks ks' : List Kind} (h : ∀ k ∈ ks, k ∈ ks') :
    ∀ k ∈ printIf b ks, k ∈ printIf b ks' := by
  intro k hk
  cases b
  · exact h k hk
  · rcases List.mem_cons.mp hk with rfl | hk
    · exact .head _
    · exact .tail _ (h k hk)

/-- The answers of every collaborator. -/
structure Env where
  loadAbi : String → Except String String
  now : Except String UInt32
  -- `helpers::now_ms` at the first, second, ... reading of one run
  nowMs : Nat → UInt64
  prepareMessageParams :
    String → String → String → String → FunctionHeader → Option String → Except String String
  encodeMessage : String → Except ClientError ResultOfEncodeMessage
  queryAccountField : String → String → Except String String
  msgAddressIntFromStr : String → Except String String
  accountWithAddressSerialize : String → Except String String
  serializeToc : String → Except String String
  base64Encode : String → String
  runExecutor : ParamsOfRunExecutor → Except ClientError ResultOfRunExecutor
  sendMessage : ParamsOfSendMessage → Except ClientError ResultOfSendMessage
  waitForTransaction : ParamsOfWaitForTransaction → Except ClientError ResultOfProcessing
  -- the events `process_message` reports, then its result
  processMessage : String → List ProcessingEvent × Except ClientError ResultOfProcessing
  accountFromBase64 : String → Except String String
  accountSerialize : String → Except String String
  constructBlockchainConfig : String → Except String String
  messageFromBase64 : String → Except String String
  executeWithLibsAndParams : DebugExecutor → String → String → ExecuteParams → Except String Unit
  -- `ClientError`'s `Display`, plain (`{}`) and alternate (`{:#}`)
  displayError : ClientError → String
  displayErrorAlternate : ClientError → String
  rfc2822 : UInt32 → String
  sdkExecutionErrorCode : UInt32
  tracePath : String
  configAddr : String
  createClient : Except String Unit
  createClientVerbose : Except String Unit
  setBoxedLogger : Except String Unit
  unpackMessage : String → Except String EncodedMessage
  -- what `print_encoded_message` prints, plain or as JSON members
  printEncodedMessage : EncodedMessage → Bool → String
  decodeMessage : String → String → Except ClientError DecodedMessageBody
  toStringPretty : JsonValue → String

/-! ## Runs -/

/-- How a call ends early: `return Err(msg)`, or a panic. -/
inductive Exit where
  | err (msg : String)
  | panic (msg : String)
  deriving Repr, DecidableEq

/-- A run of client code: the requests it made, in order, and how it ended. -/
@[ext] structure Run (ε α : Type) where
  log : List Event
  result : Except ε α

namespace Run

variable {ε ε' α β : Type}

protected def bind (x : Run ε α) (f : α → Run ε β) : Run ε β :=
  match x.result with
  | .ok a => ⟨x.log ++ (f a).log, (f a).result⟩
  | .error e => ⟨x.log, .error e⟩

instance : Monad (Run ε) where
  pure a := ⟨[], .ok a⟩
  bind := Run.bind

instance : MonadExceptOf ε (Run ε) where
  throw e := ⟨[], .error e⟩
  tryCatch x h :=
    match x.result with
    | .ok _ => x
    | .error e => ⟨x.log ++ (h e).log, (h e).result⟩

/-- Make a request: log it and take the answer as it is (`let r = f().await;`). -/
def ask (e : Event) (answer : α) : Run ε α := ⟨[e], .ok answer⟩

/-- Make a request and propagate its error (`f().await.map_err(g)?`). -/
def request (e : Event) (answer : Except ε' α) (g : ε' → ε) : Run ε α := ⟨[e], answer.mapError g⟩

/-- `?` on a `Result` computed without a request. -/
def lift (r : Except ε α) : Run ε α := ⟨[], r⟩

/-- A sub-run whose `Result` is kept as a value. -/
def attempt (x : Run ε' α) : Run ε (Except ε' α) := ⟨x.log, .ok x.result⟩

/-- `println!`, taken to succeed. -/
def println (s : String) : Run ε Unit := ask (.print (s ++ "\n")) ()

def unwrap : Option α → Run Exit α
  | some a => pure a
  | none => throw (.panic "called `Option::unwrap()` on a `None` value")

@[simp] theorem log_pure (a : α) : (pure a : Run ε α).log = [] := rfl
@[simp] theorem result_pure (a : α) : (pure a : Run ε α).result = .ok a := rfl
@[simp] theorem log_throw (e : ε) : (throw e : Run ε α).log = [] := rfl
@[simp] theorem result_throw (e : ε) : (throw e : Run ε α).result = .error e := rfl
@[simp] theorem log_ask (e : Event) (a : α) : (ask e a : Run ε α).log = [e] := rfl
@[simp] theorem result_ask (e : Event) (a : α) : (ask e a : Run ε α).result = .ok a := rfl
@[simp] theorem log_request (e : Event) (r : Except ε' α) (g : ε' → ε) :
    (request e r g).log = [e] := rfl
@[simp] theorem result_request (e : Event) (r : Except ε' α) (g : ε' → ε) :
    (request e r g).result = r.mapError g := rfl
@[simp] theorem log_lift (r : Except ε α) : (lift r).log = [] := rfl
@[simp] theorem result_lift (r : Except ε α) : (lift r).result = r := rfl
@[simp] theorem log_attempt (x : Run ε' α) : (attempt x : Run ε _).log = x.log := rfl
@[simp] theorem result_attempt (x : Run ε' α) : (attempt x : Run ε _).result = .ok x.result := rfl
@[simp] theorem log_println (s : String) : (println s : Run ε Unit).log = [.print (s ++ "\n")] := rfl
@[simp] theorem result_println (s : String) : (println s : Run ε Unit).result = .ok () := rfl

theorem bind_ok {x : Run ε α} {a : α} (h : x.result = .ok a) (f : α → Run ε β) :
    x >>= f = ⟨x.log ++ (f a).log, (f a).result⟩ := by
  show Run.bind x f = _
  simp [Run.bind, h]

theorem bind_error {x : Run ε α} {e : ε} (h : x.result = .error e) (f : α → Run ε β) :
    x >>= f = ⟨x.log, .error e⟩ := by
  show Run.bind x f = _
  simp [Run.bind, h]

@[simp] theorem result_bind (x : Run ε α) (f : α → Run ε β) :
    (x >>= f).result = x.result.bind fun a => (f a).result := by
  cases h : x.result with
  | error e => simp [bind_error h, Except.bind]
  | ok a => simp [bind_ok h, Except.bind]

@[simp] theorem log_bind (x : Run ε α) (f : α → Run ε β) :
    (x >>= f).log = x.log ++ (match x.result with | .ok a => (f a).log | .error _ => []) := by
  cases h : x.result with
  | error e => simp [bind_error h]
  | ok a => simp [bind_ok h]

instance : LawfulMonad (Run ε) := LawfulMonad.mk' (Run ε)
  (fun x => by
    show x >>= (fun a => pure (id a)) = x
    cases h : x.result <;> ext <;> simp [bind_ok, bind_error, h])
  (fun a f => by ext <;> simp [bind_ok (show (pure a : Run ε _).result = .ok a from rfl)])
  (fun x f g => by
    cases h : x.result with
    | error e => simp [bind_error h, bind_error (show (⟨x.log, .error e⟩ : Run ε _).result = _ from rfl)]
    | ok a =>
      rw [bind_ok h, bind_ok h]
      cases h' : (f a).result with
      | error e => ext <;> simp [bind_error h', h', Except.bind]
      | ok b => ext <;> simp [bind_ok h', h', Except.bind])

theorem result_bind_eq_ok {x : Run ε α} {f : α → Run ε β} {b : β} (h : (x >>= f).result = .ok b) :
    ∃ a, x.result = .ok a ∧ (f a).result = .ok b := by
  cases hx : x.result with
  | error e => simp [bind_error hx] at h
  | ok a => exact ⟨a, rfl, by simpa [bind_ok hx] using h⟩

theorem result_bind_ne {x : Run ε α} {f : α → Run ε β} {b : β} (h : ∀ a, (f a).result ≠ .ok b) :
    (x >>= f).result ≠ .ok b := by
  cases hx : x.result
  · simp [bind_error hx]
  · simpa [bind_ok hx] using h _

@[simp] theorem lift_ok_bind (a : α) (f : α → Run ε β) : lift (.ok a) >>= f = f a := by
  rw [bind_ok (result_lift _)]; rfl

@[simp] theorem lift_error_bind (e : ε) (f : α → Run ε β) : lift (.error e) >>= f = throw e :=
  bind_error (result_lift _) f

@[simp] theorem log_bind_lift (x : Run ε α) (r : Except ε β) : (x >>= fun _ => lift r).log = x.log := by
  rw [log_bind]; split <;> simp

@[simp] theorem log_map (x : Run ε α) (f : α → β) : (f <$> x).log = x.log := by
  show (x >>= fun a => pure (f a)).log = x.log
  cases h : x.result
  · rw [bind_error h]
  · rw [bind_ok h]; simp

@[simp] theorem result_map (x : Run ε α) (f : α → β) : (f <$> x).result = f <$> x.result := by
  show (x >>= fun a => pure (f a)).result = _
  cases h : x.result
  · rw [bind_error h]; rfl
  · rw [bind_ok h]; rfl

/-! ## Footprints -/

/-- Every request of the run satisfies `P`. -/
structure Only (P : Event → Prop) (x : Run ε α) : Prop where
  all : ∀ e ∈ x.log, P e

section
variable {P : Event → Prop}

theorem only_pure (a : α) : Only P (pure a : Run ε α) := ⟨by simp⟩
theorem only_throw (e : ε) : Only P (throw e : Run ε α) := ⟨by simp⟩
theorem only_lift (r : Except ε α) : Only P (lift r) := ⟨by simp⟩
theorem only_ask {e : Event} (h : P e) (a : α) : Only P (ask e a : Run ε α) := ⟨by simp [h]⟩
theorem only_request {e : Event} (h : P e) (r : Except ε' α) (g : ε' → ε) :
    Only P (request e r g) := ⟨by simp [h]⟩
theorem only_println {s : String} (h : P (.print (s ++ "\n"))) : Only P (println s : Run ε Unit) :=
  ⟨by simp [h]⟩
theorem only_unwrap (o : Option α) : Only P (unwrap o) := ⟨by cases o <;> simp [unwrap]⟩
theorem only_attempt {x : Run ε' α} (hx : Only P x) : Only P (attempt x : Run ε _) := ⟨hx.all⟩

theorem only_bind {x : Run ε α} {f : α → Run ε β} (hx : Only P x) (hf : ∀ a, Only P (f a)) :
    Only P (x >>= f) := by
  refine ⟨fun e he => ?_⟩
  rw [log_bind, List.mem_append] at he
  rcases he with he | he
  · exact hx.all e he
  · split at he
    · exact (hf _).all e he
    · cases he

theorem only_map {x : Run ε α} (hx : Only P x) (f : α → β) : Only P (f <$> x) := ⟨by simpa using hx.all⟩

theorem Only.mono {Q : Event → Prop} {x : Run ε α} (hx : Only P x) (h : ∀ e, P e → Q e) : Only Q x :=
  ⟨fun e he => h e (hx.all e he)⟩

theorem Only.kinds_sub {ks ks' : List Kind} {x : Run ε α} (hx : Only (·.kind ∈ ks) x)
    (h : ∀ k ∈ ks, k ∈ ks') : Only (·.kind ∈ ks') x :=
  hx.mono fun _ he => h _ he

section
variable {ks : List Kind} {e : Event} {b : Bool}

theorem only_ask_kind (h : ks.elem e.kind = true) (a : α) : Only (·.kind ∈ ks) (ask e a : Run ε α) :=
  @only_ask _ _ (·.kind ∈ ks) _ (List.mem_of_elem_eq_true h) a

theorem only_request_kind (h : ks.elem e.kind = true) (r : Except ε' α) (g : ε' → ε) :
    Only (·.kind ∈ ks) (request e r g) :=
  @only_request _ _ _ (·.kind ∈ ks) _ (List.mem_of_elem_eq_true h) r g

theorem only_println_kind {s : String} (h : ks.elem .print = true) : Only (·.kind ∈ ks) (println s : Run ε Unit) :=
  @only_println _ (·.kind ∈ ks) _ (List.mem_of_elem_eq_true h)

theorem only_ask_printIf (h : ks.elem e.kind = true) (a : α) :
    Only (·.kind ∈ Kind.printIf b ks) (ask e a : Run ε α) :=
  @only_ask _ _ (·.kind ∈ Kind.printIf b ks) _ (Kind.mem_printIf_of_mem (List.mem_of_elem_eq_true h) b) a

theorem only_request_printIf (h : ks.elem e.kind = true) (r : Except ε' α) (g : ε' → ε) :
    Only (·.kind ∈ Kind.printIf b ks) (request e r g) :=
  @only_request _ _ _ (·.kind ∈ Kind.printIf b ks) _ (Kind.mem_printIf_of_mem (List.mem_of_elem_eq_true h) b) r g

theorem only_println_printIf {s : String} (h : b = true) :
    Only (·.kind ∈ Kind.printIf b ks) (println s : Run ε Unit) :=
  @only_println _ (·.kind ∈ Kind.printIf b ks) _ (Kind.print_mem_printIf h ks)

end

end

/-! ## Exits -/

/-- The run ends early only with `Err`: it never unwraps `None`. -/
structure NoPanic (x : Run Exit α) : Prop where
  err : ∀ x', x.result = .error x' → ∃ m, x' = .err m

theorem noPanic_pure (a : α) : NoPanic (pure a : Run Exit α) := ⟨by simp⟩
theorem noPanic_println (s : String) : NoPanic (println s : Run Exit Unit) := ⟨by simp⟩
theorem noPanic_throw (m : String) : NoPanic (throw (.err m) : Run Exit α) := ⟨fun _ h => ⟨m, by simpa using h.symm⟩⟩
theorem noPanic_attempt (x : Run ε α) : NoPanic (attempt x : Run Exit _) := ⟨by simp⟩

theorem noPanic_lift (r : Except ε α) (g : ε → String) : NoPanic (lift (r.mapError fun e => .err (g e))) :=
  ⟨fun _ h => by cases r <;> simp at h; exact ⟨_, h.symm⟩⟩

theorem noPanic_request (e : Event) (r : Except ε α) (g : ε → String) :
    NoPanic (request e r fun e => .err (g e)) :=
  ⟨(noPanic_lift r g).err⟩

theorem noPanic_bind {x : Run Exit α} {f : α → Run Exit β} (hx : NoPanic x)
    (hf : ∀ a, x.result = .ok a → NoPanic (f a)) : NoPanic (x >>= f) := by
  refine ⟨fun x' h => ?_⟩
  cases hr : x.result with
  | error e => rw [bind_error hr] at h; exact hx.err _ (hr.trans (by simpa using h))
  | ok a => rw [bind_ok hr] at h; exact (hf a hr).err _ h

theorem noPanic_map {x : Run Exit α} (hx : NoPanic x) (f : α → β) : NoPanic (f <$> x) :=
  ⟨fun x' h => hx.err x' (by cases hr : x.result <;> simp_all)⟩

end Run

end EvsCli
