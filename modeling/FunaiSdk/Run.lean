import FunaiSdk.Keys

/-!
# Runs: requests to the services outside the SDK

A run of the SDK is a computation that may throw, over a `World`: the log of the requests
made so far, and a heap holding the object the caller shares with the run. A request is
logged before its answer is read, and an error keeps the world as it stood, which is how an
exception leaves in place what was mutated before it. The answers come from
`Collaborators`, parameters of every run, so a theorem about runs holds for every service.
-/

namespace FunaiSdk

/-- A contract's ABI. Its module is not among the sources, so only its check of a
contract call is kept. -/
structure ClarityAbi where
  validateContractCall : Payload → Except String Unit

/-- A JavaScript number as the model keeps it: an integral finite value, `Infinity` or
`-Infinity`, or `NaN`. -/
inductive JsNumber
  | finite (value : Int)
  | infinite (negative : Bool)
  | nan
  deriving DecidableEq, Repr

/-- The body of a task submission, field for field. `signedTx` is the transaction whose
serialization `signed_tx` carries; the codec is outside this model. -/
structure SubmitTaskRequest where
  taskId : Option String
  userAddress : String
  userInput : String
  context : String
  modelName : String
  inferFee : JsNumber
  maxInferTime : Nat
  fee : Option JsNumber
  nonce : Option JsNumber
  signedTx : Transaction
  isEncrypted : Option Bool
  signerPublicKey : Option String

/-- The signed body of a task status query. -/
structure AuthenticatedTaskStatusRequest where
  taskId : String
  publicKey : String
  signature : String
  timestamp : Nat

/-- A task's status, read for its `status`. -/
structure TaskStatusResponse where
  status : String

/-- `ApiResponse<T>`, the signer's JSON envelope. -/
structure ApiResponse (α : Type) where
  success : Bool
  data : Option α
  error : Option String

/-- The status endpoint's answer: the HTTP status, and the body as `response.json()` parses
it. -/
structure StatusHttpResponse where
  status : Nat
  body : Except String (ApiResponse TaskStatusResponse)

/-- A request the SDK sends out, or a reading of the clock and a wait. -/
inductive Call
  | fetchFeeEstimate (transaction : Transaction)
  | fetchNonce (address : String)
  | fetchAbi (contractAddress contractName : String)
  | getSignerPublicKey
  | submitInferTask (request : SubmitTaskRequest)
  | callReadOnly (url sender : String) (arguments : List String)
  | broadcastTransaction (transaction : Transaction)
  | queryTaskStatus (url : String) (request : AuthenticatedTaskStatusRequest)
  | dateNow
  /-- `setTimeout(resolve, ms)`, with the value passed: `none` is `null`. -/
  | sleep (ms : Option JsNumber)

/-- The answer of a read-only contract call: `okay` and the serialized result. -/
structure ReadOnlyResult where
  okay : Bool
  result : String

/-- The services' answers, each a function of the request. -/
structure Collaborators where
  fetchFeeEstimate : Transaction → Except String Int
  fetchNonce : String → Except String Int
  fetchAbi : String → String → Except String ClarityAbi
  getSignerPublicKey : Except String String
  submitInferTask : SubmitTaskRequest → Except String String
  callReadOnly : String → String → List String → Except String ReadOnlyResult
  /-- `encryptForSigner`, which draws fresh randomness: one of its outcomes. -/
  encryptForSigner : String → String → Except String String
  /-- `broadcastTransaction`, read for the result's `txid`. -/
  broadcastTransaction : Transaction → Except String String
  queryTaskStatus : String → AuthenticatedTaskStatusRequest → Except String StatusHttpResponse
  /-- `Date.now()`, as the clock reads after the given requests, readings and waits. -/
  dateNow : List Call → Nat

/-- Services for running the model on small inputs: every request is answered, with a fee
estimate of 180 and a nonce of 7, every task is completed, and the clock advances a second
per logged step. -/
def toyServices : Collaborators where
  fetchFeeEstimate _ := .ok 180
  fetchNonce _ := .ok 7
  fetchAbi _ _ := .ok ⟨fun _ => .ok ()⟩
  getSignerPublicKey := .ok "02ab"
  submitInferTask _ := .ok "task"
  callReadOnly _ _ _ := .ok ⟨true, "0x0100000000000000000000000000000000"⟩
  encryptForSigner _ message := .ok message
  broadcastTransaction _ := .ok "txid"
  queryTaskStatus _ _ := .ok ⟨200, .ok ⟨true, some ⟨"completed"⟩, none⟩⟩
  dateNow calls := 1000 * calls.length

def Call.feeTransaction : Call → Option Transaction
  | .fetchFeeEstimate transaction => some transaction
  | _ => none

def Call.nonceAddress : Call → Option String
  | .fetchNonce address => some address
  | _ => none

/-- The transactions a fee estimate was asked for, in order. -/
def feeRequests (calls : List Call) : List Transaction :=
  calls.filterMap Call.feeTransaction

/-- The addresses a nonce was asked for, in order. -/
def nonceRequests (calls : List Call) : List String :=
  calls.filterMap Call.nonceAddress

@[simp] theorem feeRequests_nil : feeRequests [] = [] := rfl

@[simp] theorem nonceRequests_nil : nonceRequests [] = [] := rfl

@[simp] theorem feeRequests_append (l l' : List Call) :
    feeRequests (l ++ l') = feeRequests l ++ feeRequests l' :=
  List.filterMap_append _ _ _

@[simp] theorem nonceRequests_append (l l' : List Call) :
    nonceRequests (l ++ l') = nonceRequests l ++ nonceRequests l' :=
  List.filterMap_append _ _ _

@[simp] theorem feeRequests_singleton (call : Call) :
    feeRequests [call] = call.feeTransaction.toList := by
  cases h : call.feeTransaction <;> simp [feeRequests, h]

@[simp] theorem nonceRequests_singleton (call : Call) :
    nonceRequests [call] = call.nonceAddress.toList := by
  cases h : call.nonceAddress <;> simp [nonceRequests, h]

structure World (σ : Type) where
  calls : List Call
  heap : σ

/-- The world with one more request in its log. -/
def World.log {σ : Type} (w : World σ) (call : Call) : World σ :=
  { w with calls := w.calls ++ [call] }

@[simp] theorem World.calls_log {σ : Type} (w : World σ) (call : Call) :
    (w.log call).calls = w.calls ++ [call] := rfl

@[simp] theorem World.heap_log {σ : Type} (w : World σ) (call : Call) :
    (w.log call).heap = w.heap := rfl

abbrev Run (σ α : Type) := EStateM String (World σ) α

variable {σ α β : Type}

/-- Pure code that may throw, inside a run. -/
def liftExcept : Except String α → Run σ α
  | .ok a => pure a
  | .error e => throw e

/-- A request: logged, then answered. -/
def request (call : Call) (answer : Except String α) : Run σ α := fun w =>
  match answer with
  | .ok a => .ok a (w.log call)
  | .error e => .error e (w.log call)

variable (c : Collaborators)

/-- `fetchFeeEstimate({ transaction, ...options })`. -/
def fetchFeeEstimate (transaction : Transaction) : Run σ Int :=
  request (.fetchFeeEstimate transaction) (c.fetchFeeEstimate transaction)

/-- `fetchNonce({ address, ...options })`. -/
def fetchNonce (address : String) : Run σ Int :=
  request (.fetchNonce address) (c.fetchNonce address)

/-- `fetchAbi({ ...options })`, for the contract the options name. -/
def fetchAbi (contractAddress contractName : String) : Run σ ClarityAbi :=
  request (.fetchAbi contractAddress contractName) (c.fetchAbi contractAddress contractName)

/-- `broadcastTransaction({ transaction, network })`. -/
def broadcastTransaction (transaction : Transaction) : Run σ String :=
  request (.broadcastTransaction transaction) (c.broadcastTransaction transaction)

/-- `Date.now()`. -/
def dateNow : Run σ Nat := fun w => .ok (c.dateNow w.calls) (w.log .dateNow)

/-- `await new Promise(resolve => setTimeout(resolve, ms))`. -/
def sleep (ms : Option JsNumber) : Run σ Unit := fun w => .ok () (w.log (.sleep ms))

def getHeap : Run σ σ := fun w => .ok w.heap w

def setHeap (heap : σ) : Run σ Unit := fun w => .ok () { w with heap }

section Reading

variable {x : Run σ α} {f : α → Run σ β} {w w' : World σ}

theorem bind_ok {b : β} :
    (x >>= f) w = .ok b w' ↔ ∃ a w₁, x w = .ok a w₁ ∧ f a w₁ = .ok b w' := by
  simp only [bind, EStateM.bind]
  cases x w with
  | ok a w₁ => exact ⟨fun hf => ⟨a, w₁, rfl, hf⟩, fun ⟨_, _, he, hf⟩ => by cases he; exact hf⟩
  | error e s => simp

theorem bind_error {e : String} :
    (x >>= f) w = .error e w' ↔
      x w = .error e w' ∨ ∃ a w₁, x w = .ok a w₁ ∧ f a w₁ = .error e w' := by
  simp only [bind, EStateM.bind]
  cases x w with
  | ok a w₁ =>
    refine ⟨fun hf => .inr ⟨a, w₁, rfl, hf⟩, ?_⟩
    rintro (h | ⟨_, _, h, hf⟩)
    · cases h
    · cases h; exact hf
  | error e s => simp

theorem map_ok {g : α → β} {b : β} :
    (g <$> x) w = .ok b w' ↔ ∃ a, x w = .ok a w' ∧ g a = b := by
  show (x >>= fun a => pure (g a)) w = _ ↔ _
  simp only [bind_ok]
  constructor
  · rintro ⟨a, w₁, hx, hg⟩
    cases hg
    exact ⟨a, hx, rfl⟩
  · rintro ⟨a, hx, rfl⟩
    exact ⟨a, w', hx, rfl⟩

@[simp] theorem pure_apply (a : α) : (pure a : Run σ α) w = .ok a w := rfl

@[simp] theorem throw_apply (e : String) : (throw e : Run σ α) w = .error e w := rfl

@[simp] theorem liftExcept_ok (a : α) : liftExcept (.ok a) = (pure a : Run σ α) := rfl

@[simp] theorem liftExcept_error (e : String) : liftExcept (.error e) = (throw e : Run σ α) := rfl

theorem liftExcept_apply_ok {x : Except String α} {a : α} :
    (liftExcept x : Run σ α) w = .ok a w' ↔ x = .ok a ∧ w' = w := by
  cases x <;> simp [liftExcept, eq_comm]

theorem liftExcept_apply_error {x : Except String α} {e : String} :
    (liftExcept x : Run σ α) w = .error e w' ↔ x = .error e ∧ w' = w := by
  cases x <;> simp [liftExcept, eq_comm]

theorem request_apply_ok {call : Call} {answer : Except String α} {a : α} :
    request call answer w = .ok a w' ↔ answer = .ok a ∧ w' = w.log call := by
  cases answer <;> simp [request, eq_comm]

theorem request_apply_error {call : Call} {answer : Except String α} {e : String} :
    request call answer w = .error e w' ↔ answer = .error e ∧ w' = w.log call := by
  cases answer <;> simp [request, eq_comm]

@[simp] theorem getHeap_bind (f : σ → Run σ β) : (getHeap >>= f) w = f w.heap w := rfl

@[simp] theorem dateNow_bind (f : Nat → Run σ β) :
    (dateNow c >>= f) w = f (c.dateNow w.calls) (w.log .dateNow) := rfl

@[simp] theorem sleep_bind (ms : Option JsNumber) (f : Unit → Run σ β) :
    (sleep ms >>= f) w = f () (w.log (.sleep ms)) := rfl

@[simp] theorem setHeap_bind (heap : σ) (f : Unit → Run σ β) :
    (setHeap heap >>= f) w = f () { w with heap } := rfl

@[simp] theorem throw_bind (e : String) (f : α → Run σ β) : (throw e >>= f : Run σ β) = throw e :=
  rfl

end Reading

/-- The world a run leaves, whether it returned or threw. -/
def worldAfter : EStateM.Result String (World σ) α → World σ
  | .ok _ w => w
  | .error _ w => w

/-- From every world, a run that returns or throws having asked for no fee estimate and no
nonce. -/
def AsksNoFeeNonce (x : Run σ α) : Prop :=
  ∀ w, ∃ calls, (worldAfter (x w)).calls = w.calls ++ calls ∧ feeRequests calls = [] ∧
    nonceRequests calls = []

namespace AsksNoFeeNonce

theorem of_world {x : Run σ α} (h : ∀ w, worldAfter (x w) = w) : AsksNoFeeNonce x :=
  fun w => ⟨[], by rw [h, List.append_nil], rfl, rfl⟩

theorem pure (a : α) : AsksNoFeeNonce (Pure.pure a : Run σ α) := of_world fun _ => rfl

theorem throw (e : String) : AsksNoFeeNonce (MonadExcept.throw e : Run σ α) :=
  of_world fun _ => rfl

theorem liftExcept (x : Except String α) : AsksNoFeeNonce (FunaiSdk.liftExcept x : Run σ α) :=
  of_world fun _ => by cases x <;> rfl

/-- A request that is neither a fee estimate nor a nonce lookup. -/
theorem request {call : Call} (answer : Except String α) (hfee : call.feeTransaction = none)
    (hnonce : call.nonceAddress = none) : AsksNoFeeNonce (FunaiSdk.request call answer : Run σ α) :=
  fun w => ⟨[call], by cases answer <;> rfl, by simp [hfee], by simp [hnonce]⟩

theorem fetchAbi (contractAddress contractName : String) :
    AsksNoFeeNonce (FunaiSdk.fetchAbi c contractAddress contractName : Run σ ClarityAbi) :=
  request _ rfl rfl

theorem broadcastTransaction (transaction : Transaction) :
    AsksNoFeeNonce (FunaiSdk.broadcastTransaction c transaction : Run σ String) :=
  request _ rfl rfl

theorem bind {x : Run σ α} {f : α → Run σ β} (hx : AsksNoFeeNonce x)
    (hf : ∀ a, AsksNoFeeNonce (f a)) : AsksNoFeeNonce (x >>= f) := by
  intro w
  obtain ⟨calls, hcalls, hfee, hnonce⟩ := hx w
  simp only [Bind.bind, EStateM.bind]
  cases hxw : x w with
  | ok a w₁ =>
    rw [hxw] at hcalls
    obtain ⟨calls', hcalls', hfee', hnonce'⟩ := hf a w₁
    refine ⟨calls ++ calls', ?_, by simp [hfee, hfee'], by simp [hnonce, hnonce']⟩
    rw [hcalls', show w₁.calls = w.calls ++ calls from hcalls, List.append_assoc]
  | error e w₁ =>
    rw [hxw] at hcalls
    exact ⟨calls, hcalls, hfee, hnonce⟩

end AsksNoFeeNonce

end FunaiSdk
