import EvsCli.Client

/-!
# Calling a contract

`emulate_locally`, `send_message_and_wait`, `process_message` and
`call_contract_with_client` (call.rs:127-420). The last is cut where its code
turns: the preparation of the message, the `needs_encoded_msg` block with its two
early returns (`encodeStage`), and the rest, which pre-captures the diagnostic
state, processes the message and replays a failed execution (`submitStage`).

Each definition bears the name of the function it models, in call.rs:
`printFees` 174-181, `emulateLocally` 127-186, `sendMessageAndWait` 188-229,
`processMessage` 231-262, `encodeInbound` 319-320, `printExpireAt` 339-343,
`callContractWithClient` 285-420, `callContractWithResult` 264-283,
`printJsonResult` 422-433, `callContract` 435-451, `decodeCallParameters` 54-71,
`callContractWithMsg` 453-484. With `is_json` the callback of `process_message`
does nothing.
-/

namespace EvsCli

open Run

variable (env : Env)

/-! ## Local emulation -/

/-- The account `emulate_locally` makes up to estimate the fees of a message to an
address that has none yet (call.rs:137-145). -/
def dummyAccountBoc (addr : String) : Except String String := do
  let addr ← (env.msgAddressIntFromStr addr).mapError ("couldn't decode address: " ++ ·)
  let cell ← (env.accountWithAddressSerialize addr).mapError
    ("couldn't create dummy account for deploy emulation: " ++ ·)
  let bytes ← (env.serializeToc cell).mapError ("failed to serialize account cell: " ++ ·)
  pure (env.base64Encode bytes)

def printFees (fees : TransactionFees) : Run Exit Unit := do
  println "\x7b"
  println ("  \"in_msg_fwd_fee\": \"" ++ toString fees.inMsgFwdFee ++ "\",")
  println ("  \"storage_fee\": \"" ++ toString fees.storageFee ++ "\",")
  println ("  \"gas_fee\": \"" ++ toString fees.gasFee ++ "\",")
  println ("  \"out_msgs_fwd_fee\": \"" ++ toString fees.outMsgsFwdFee ++ "\",")
  println ("  \"total_account_fees\": \"" ++ toString fees.totalAccountFees ++ "\",")
  println ("  \"total_output\": \"" ++ toString fees.totalOutput ++ "\"")
  println "\x7d"

/-- The account state `emulate_locally` runs the message against (call.rs:133-151):
the account's BOC, or in fee mode a made-up account when the query fails. -/
def accountState (addr : String) (isFee : Bool) : Run Exit String := do
  let stateBoc ← ask (.queryAccountField addr "boc") (env.queryAccountField addr "boc")
  match stateBoc with
  | .ok boc => pure boc
  | .error e => if isFee then lift ((dummyAccountBoc env addr).mapError .err) else throw (.err e)

def emulateLocally (addr msg : String) (isFee : Bool) : Run Exit Unit := do
  let state ← accountState env addr isFee
  let params : ParamsOfRunExecutor :=
    { message := msg, boc := state, unlimitedBalance := if isFee then some true else none }
  let res ← ask (.runExecutor params) (env.runExecutor params)
  match res with
  | .error e => throw (.err (env.displayErrorAlternate e))
  | .ok r =>
    if isFee then printFees r.fees
    else println "Local run succeeded. Executing onchain."

/-! ## Submission -/

/-- `result.decoded.and_then(|d| d.output).unwrap_or(json!({}))`. -/
def decodedOutput (r : ResultOfProcessing) : JsonValue :=
  (r.decoded.bind (·.output)).getD (.object [])

def sendMessageAndWait (abi : Option String) (msg : String) (config : Config) : Run Exit JsonValue := do
  if !config.isJson then println "Processing... "
  let params : ParamsOfSendMessage := { message := msg, abi := abi, sendEvents := false }
  let result ← request (.sendMessage params) (env.sendMessage params)
    fun e => .err (env.displayErrorAlternate e)
  if !config.asyncCall then
    let params : ParamsOfWaitForTransaction :=
      { abi := abi, message := msg, shardBlockId := result.shardBlockId, sendEvents := true }
    let result ← request (.waitForTransaction params) (env.waitForTransaction params)
      fun e => .err (env.displayErrorAlternate e)
    pure (decodedOutput result)
  else
    pure (.object [])

/-- The callback `process_message` gives the SDK: it prints the id of the sent message. -/
def notify : List ProcessingEvent → Run ClientError Unit
  | [] => pure ()
  | .didSend _ messageId _ :: events => do
    println ("MessageId: " ++ messageId)
    notify events
  | .other :: events => notify events

def processMessage (msgParams : String) (config : Config) : Run ClientError JsonValue := do
  let (events, res) ← ask (.processMessage msgParams) (env.processMessage msgParams)
  if !config.isJson then notify events
  let res ← lift res
  pure (decodedOutput res)

/-! ## The call -/

def encodeInbound (msgParams : String) : Run Exit ResultOfEncodeMessage :=
  request (.encodeMessage msgParams) (env.encodeMessage msgParams)
    fun e => .err ("failed to create inbound message: " ++ env.displayError e)

/-- The `needs_encoded_msg` block (call.rs:313-337): `.inl v` where the call returns
`v` early, `.inr message` where it goes on. -/
def encodeStage (config : Config) (addr abi msgParams : String) (isFee : Bool) :
    Run Exit (JsonValue ⊕ Option String) := do
  if isFee || config.asyncCall || config.localRun || config.debugFail then
    let msg ← encodeInbound env msgParams
    if config.localRun || isFee then
      emulateLocally env addr msg.message isFee
      if isFee then return .inl .null
    if config.asyncCall then
      return .inl (← sendMessageAndWait env (some abi) msg.message config)
    return .inr (some msg.message)
  else
    return .inr none

structure Dump where
  bcConfig : String
  account : String
  message : String
  now : UInt64

def printExpireAt (config : Config) (expireAt : UInt32) : Run Exit Unit :=
  if !config.isJson then do
    ask (.print "Expire at: ") ()
    println (env.rfc2822 expireAt)
  else pure ()

/-- The diagnostic pre-capture `let dump = if config.debug_fail { .. } else { None }`
(call.rs:345-369): the account and the chain configuration as they are before the
message is processed. -/
def captureDump (config : Config) (addr : String) (message : Option String) :
    Run Exit (Option Dump) :=
  if config.debugFail then do
    let accBoc ← request (.queryAccountField addr "boc") (env.queryAccountField addr "boc") .err
    let account ← lift ((env.accountFromBase64 accBoc).mapError
      fun e => .err ("Failed to construct account: " ++ e))
    let account ← lift ((env.accountSerialize account).mapError
      fun e => .err ("Failed to serialize account: " ++ e))
    let configAcc ← request (.queryAccountField env.configAddr "boc")
      (env.queryAccountField env.configAddr "boc") .err
    let configAcc ← lift ((env.accountFromBase64 configAcc).mapError
      fun e => .err ("Failed to construct config account: " ++ e))
    let bcConfig ← lift ((env.constructBlockchainConfig configAcc).mapError .err)
    let now := env.nowMs 1
    let message ← unwrap message
    pure (some ⟨bcConfig, account, message, now⟩)
  else pure none

/-- `res.is_err() && res.err().unwrap().code == SDK_EXECUTION_ERROR_CODE`. -/
def isExecutionError (res : Except ClientError JsonValue) : Bool :=
  match res with
  | .error e => e.code == env.sdkExecutionErrorCode
  | .ok _ => false

/-- The instrumented replay of a failed execution (call.rs:373-418). Its outcome is
only printed. -/
def replay (config : Config) (dump : Option Dump) (res : Except ClientError JsonValue) :
    Run Exit Unit :=
  if config.debugFail && isExecutionError env res then do
    ask .replay ()
    if !config.isJson then println "Execution failed. Starting debug..."
    let d ← unwrap dump
    let message ← lift ((env.messageFromBase64 d.message).mapError
      fun e => .err ("failed to construct message: " ++ e))
    let executor : DebugExecutor := { config := d.bcConfig, traceLevel := .minimal, isGetter := false }
    let params : ExecuteParams :=
      { blockUnixtime := (d.now / 1000).toUInt32, blockLt := d.now, lastTrLt := d.now, seedBlock := 0,
        debug := true }
    let trans ← ask (.debugExecute executor message d.account params)
      (env.executeWithLibsAndParams executor message d.account params)
    let msgString := match trans with
      | .ok _ => "Debug finished."
      | .error e => "Debug failed: " ++ e
    if !config.isJson then
      println msgString
      println ("Log saved to " ++ env.tracePath)
  else pure ()

/-- From the expiry notice to the end of `call_contract_with_client` (call.rs:339-419). -/
def submitStage (config : Config) (addr msgParams : String) (expireAt : UInt32)
    (message : Option String) : Run Exit JsonValue := do
  printExpireAt env config expireAt
  let dump ← captureDump env config addr message
  let res ← attempt (processMessage env msgParams config)
  replay env config dump res
  lift (res.mapError fun e => .err (env.displayErrorAlternate e))

/-- What `call_contract_with_client` prepares before it sends anything (call.rs:295-311):
the loaded ABI, the expiry, and the encoding parameters with their header. -/
def prepareCall (config : Config) (addr abi method params : String) (keys : Option String) :
    Except Exit (String × UInt32 × String) := do
  let abi ← (env.loadAbi abi).mapError .err
  let now ← env.now.mapError .err
  let expireAt := config.lifetime + now
  let time := env.nowMs 0
  let header : FunctionHeader := { expire := some expireAt, time := some time }
  let msgParams ← (env.prepareMessageParams addr abi method params header keys).mapError .err
  pure (abi, expireAt, msgParams)

def callContractWithClient (config : Config) (addr abi method params : String)
    (keys : Option String) (isFee : Bool) : Run Exit JsonValue := do
  let (abi, expireAt, msgParams) ← lift (prepareCall env config addr abi method params keys)
  match ← encodeStage env config addr abi msgParams isFee with
  | .inl v => pure v
  | .inr message => submitStage env config addr msgParams expireAt message

/-! ## Entry points -/

/-- The client `call_contract_with_result` creates (call.rs:273-281): with
`debug_fail`, after installing the logger that writes to `TRACE_PATH`. -/
def createClientFor (config : Config) : Except Exit Unit :=
  if config.debugFail then do
    env.setBoxedLogger.mapError fun e => .err ("Failed to set logger: " ++ e)
    env.createClient.mapError .err
  else env.createClientVerbose.mapError .err

def callContractWithResult (config : Config) (addr abi method params : String)
    (keys : Option String) (isFee : Bool) : Run Exit JsonValue := do
  lift (createClientFor env config)
  callContractWithClient env config addr abi method params keys isFee

def printJsonResult (result : JsonValue) (config : Config) : Run Exit Unit :=
  if !result.isNull then
    if !config.isJson then println ("Result: " ++ env.toStringPretty result)
    else println (env.toStringPretty result)
  else pure ()

def callContract (config : Config) (addr abi method params : String) (keys : Option String)
    (isFee : Bool) : Run Exit Unit := do
  let result ← callContractWithResult env config addr abi method params keys isFee
  if !config.isJson then println "Succeeded."
  printJsonResult env result config

def decodeCallParameters (msg : EncodedMessage) (abi : String) : Run Exit (String × String) := do
  let result ← request (.decodeMessage abi msg.message) (env.decodeMessage abi msg.message)
    fun e => .err ("couldn't decode message: " ++ env.displayError e)
  pure (result.name, env.toStringPretty (result.value.getD (.object [])))

/-- `call_contract_with_msg` up to the sending (call.rs:454-472): the client, the ABI
and the message, and what is printed about them. -/
def describeMessage (config : Config) (strMsg abi : String) : Run Exit (String × EncodedMessage) := do
  lift (env.createClientVerbose.mapError .err)
  let abi ← lift ((env.loadAbi abi).mapError .err)
  let msg ← lift ((env.unpackMessage strMsg).mapError .err)
  if config.isJson then println "\x7b"
  ask (.print (env.printEncodedMessage msg config.isJson)) ()
  let params ← decodeCallParameters env msg abi
  if !config.isJson then
    println ("Calling method " ++ params.1 ++ " with parameters:")
    println params.2
    println "Processing... "
  else
    println ("  \"Method\": \"" ++ params.1 ++ "\",")
    println ("  \"Parameters\": " ++ params.2 ++ ",")
    println "\x7d"
  pure (abi, msg)

def callContractWithMsg (config : Config) (strMsg abi : String) : Run Exit Unit := do
  let (abi, msg) ← describeMessage env config strMsg abi
  let result ← sendMessageAndWait env (some abi) msg.message config
  if !config.isJson then
    println "Succeeded."
    if !result.isNull then println ("Result: " ++ env.toStringPretty result)

end EvsCli
