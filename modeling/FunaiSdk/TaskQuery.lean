import FunaiSdk.Api

/-!
# Querying a task's status

`queryInferenceTaskStatus` reads the clock, signs `query_task:{taskId}:{timestamp}` with the
caller's key, and posts the task id, the public key, the signature and the timestamp to the
signer. The timestamp's decimal digits contain no `:`, so the bytes signed determine the task
and the second. The signer can check a body on its own: the signature, its recovery byte
moved back to the front, recovers the body's public key from the hash of its own message.
-/

namespace FunaiSdk

variable {σ : Type} (c : Collaborators) (crypto : Crypto)

/-- The options of a status query. -/
structure QueryTaskOptions where
  taskId : String
  privateKey : String

/-- Modelled from the spec: `signMessageHashRsv`, the recoverable signature of a message hash
with the recovery byte moved last, in hex. -/
def signMessageHashRsv (messageHash privateKey : String) : Except String String := do
  let hash ← hexToBytes messageHash
  let key ← privateKeyToBytes (.hex privateKey)
  let vrs := crypto.sign hash key
  return bytesToHex (vrs.drop 1 ++ vrs.take 1)

/-- The message a status query signs, `query_task:{taskId}:{timestamp}`. -/
def taskQueryMessage (taskId : String) (timestamp : Nat) : String :=
  "query_task:" ++ taskId ++ ":" ++ toString timestamp

/-- `result.error || fallback`: an absent or empty error gives the fallback. -/
def errorOr (error : Option String) (fallback : String) : String :=
  match error with
  | some e => if e = "" then fallback else e
  | none => fallback

namespace FunaiNodeApi

variable (api : FunaiNodeApi)

/-- The status query's body: the task, the caller's public key, and the signature of the
message's hash at the given second. -/
def taskStatusRequest (options : QueryTaskOptions) (timestamp : Nat) :
    Except String AuthenticatedTaskStatusRequest := do
  let message := taskQueryMessage options.taskId timestamp
  let messageHash := bytesToHex (crypto.sha256 (Message.utf8ToBytes message))
  let signature ← signMessageHashRsv crypto messageHash options.privateKey
  let publicKey ← privateKeyToPublic crypto (.hex options.privateKey)
  return ⟨options.taskId, publicKey, signature, timestamp⟩

/-- What the query makes of the signer's answer: 401, 403 and 404 are errors, and then the
body must be a successful envelope with data. -/
def readTaskStatus (response : StatusHttpResponse) : Except String TaskStatusResponse := do
  if response.status = 401 then
    throw "Authentication failed: signature verification failed or request expired"
  if response.status = 403 then throw "Forbidden: you are not the owner of this task"
  if response.status = 404 then throw "Task not found"
  let result ← response.body
  match result.success, result.data with
  | true, some data => pure data
  | _, _ => throw (errorOr result.error "Failed to get inference task status")

def queryInferenceTaskStatus (options : QueryTaskOptions) : Run σ TaskStatusResponse := do
  let timestamp := (← dateNow c) / 1000
  let requestBody ← liftExcept (taskStatusRequest crypto options timestamp)
  let url := api.baseUrl ++ "/api/v1/tasks/status"
  let response ← FunaiSdk.request (.queryTaskStatus url requestBody)
    (c.queryTaskStatus url requestBody)
  liftExcept (readTaskStatus response)

end FunaiNodeApi

/-- The body a query posts carries the signature of its own task and timestamp's message. -/
theorem taskStatusRequest_ok {options : QueryTaskOptions} {timestamp : Nat}
    {request : AuthenticatedTaskStatusRequest}
    (h : FunaiNodeApi.taskStatusRequest crypto options timestamp = .ok request) :
    request.taskId = options.taskId ∧ request.timestamp = timestamp ∧
      signMessageHashRsv crypto
        (bytesToHex (crypto.sha256 (Message.utf8ToBytes
          (taskQueryMessage request.taskId request.timestamp))))
        options.privateKey = .ok request.signature := by
  simp only [FunaiNodeApi.taskStatusRequest, except_bind_eq_ok, except_pure,
    Except.ok.injEq] at h
  obtain ⟨_, hsignature, _, -, rfl⟩ := h
  exact ⟨rfl, rfl, hsignature⟩

/-- A recoverable signature from its `rsv` form: the recovery byte moved back to the front. -/
def rsvToVrs (rsv : Bytes) : Bytes :=
  rsv.rotateRight

theorem rsvToVrs_rsv : ∀ vrs : Bytes, rsvToVrs (vrs.drop 1 ++ vrs.take 1) = vrs
  | [] => rfl
  | [_] => rfl
  | v :: v' :: rest => by
    have hlength : (v' :: rest ++ [v]).length - 1 % (v' :: rest ++ [v]).length =
        (v' :: rest).length := by simp
    simp only [rsvToVrs, List.rotateRight, hlength]
    simp

/-- What the signer can check of a status query's body alone: the body names the public key
`publicKey`, and its signature, with the recovery byte moved back to the front, recovers that
key from the hash of the body's own task id and second. -/
def QuerySignedBy (request : AuthenticatedTaskStatusRequest) (publicKey : Bytes) : Prop :=
  hexToBytes request.publicKey = .ok publicKey ∧
    ∃ rsv encoding, hexToBytes request.signature = .ok rsv ∧
      crypto.recoverPublicKey
        (crypto.sha256 (Message.utf8ToBytes (taskQueryMessage request.taskId request.timestamp)))
        (rsvToVrs rsv) encoding = publicKey

/-- An `rsv` signature of a hash, once its recovery byte is back in front, recovers the
signing key's public key. -/
theorem signMessageHashRsv_recover {hash : Bytes} {privateKey signature : String}
    (h : signMessageHashRsv crypto (bytesToHex hash) privateKey = .ok signature) :
    ∃ key, privateKeyToBytes (.hex privateKey) = .ok key ∧ ∃ rsv,
      hexToBytes signature = .ok rsv ∧
      crypto.recoverPublicKey hash (rsvToVrs rsv) (privateKeyEncoding key) =
        crypto.publicKeyOf key := by
  simp only [signMessageHashRsv, hexToBytes_bytesToHex, except_ok_bind, except_bind_eq_ok,
    except_pure, Except.ok.injEq] at h
  obtain ⟨key, hkey, rfl⟩ := h
  exact ⟨key, hkey, _, hexToBytes_bytesToHex _, by rw [rsvToVrs_rsv, crypto.recover_sign]⟩

/-- The body a query posts is signed by the caller's key, for the body's own task and
second. -/
theorem taskStatusRequest_signedBy {options : QueryTaskOptions} {timestamp : Nat}
    {request : AuthenticatedTaskStatusRequest}
    (h : FunaiNodeApi.taskStatusRequest crypto options timestamp = .ok request) :
    request.taskId = options.taskId ∧ request.timestamp = timestamp ∧
      ∃ key, privateKeyToBytes (.hex options.privateKey) = .ok key ∧
        QuerySignedBy crypto request (crypto.publicKeyOf key) := by
  simp only [FunaiNodeApi.taskStatusRequest, except_bind_eq_ok, except_pure,
    Except.ok.injEq] at h
  obtain ⟨_, hsignature, _, hpublic, rfl⟩ := h
  obtain ⟨key, hkey, rsv, hrsv, hrecover⟩ := signMessageHashRsv_recover crypto hsignature
  obtain ⟨key', hkey', rfl⟩ := privateKeyToPublic_ok crypto hpublic
  obtain rfl : key' = key := Except.ok.inj (hkey'.symm.trans hkey)
  exact ⟨rfl, rfl, key', hkey', hexToBytes_bytesToHex _, rsv, _, hrsv, hrecover⟩

/-- A query reads the clock, then sends at most one status request, whose body signs the
message of the options' task at the second the clock read. -/
theorem queryInferenceTaskStatus_signs (api : FunaiNodeApi) (options : QueryTaskOptions)
    (w : World σ) :
    ∃ calls, (worldAfter (api.queryInferenceTaskStatus c crypto options w)).calls =
        w.calls ++ .dateNow :: calls ∧
      (calls = [] ∨ ∃ request,
        calls = [.queryTaskStatus (api.baseUrl ++ "/api/v1/tasks/status") request] ∧
        FunaiNodeApi.taskStatusRequest crypto options (c.dateNow w.calls / 1000) = .ok request) := by
  simp only [FunaiNodeApi.queryInferenceTaskStatus, Bind.bind, EStateM.bind, dateNow]
  cases hrequest : FunaiNodeApi.taskStatusRequest crypto options (c.dateNow w.calls / 1000) with
  | error e => exact ⟨[], rfl, .inl rfl⟩
  | ok request =>
    let url := api.baseUrl ++ "/api/v1/tasks/status"
    refine ⟨[.queryTaskStatus url request], ?_, .inr ⟨request, rfl, rfl⟩⟩
    simp only [liftExcept, pure, EStateM.pure, FunaiSdk.request]
    cases c.queryTaskStatus url request with
    | error e => simp [worldAfter]
    | ok response =>
      cases hread : FunaiNodeApi.readTaskStatus response <;>
        simp [hread, worldAfter, EStateM.pure, EStateM.throw]

/-- A query that returns read the clock, posted the body signed at the second it read, and
read the signer's answer to it. -/
theorem queryInferenceTaskStatus_ok {api : FunaiNodeApi} {options : QueryTaskOptions}
    {w w' : World σ} {status : TaskStatusResponse}
    (h : api.queryInferenceTaskStatus c crypto options w = .ok status w') :
    ∃ request response,
      FunaiNodeApi.taskStatusRequest crypto options (c.dateNow w.calls / 1000) = .ok request ∧
      c.queryTaskStatus (api.baseUrl ++ "/api/v1/tasks/status") request = .ok response ∧
      FunaiNodeApi.readTaskStatus response = .ok status ∧
      w'.calls = w.calls ++
        [.dateNow, .queryTaskStatus (api.baseUrl ++ "/api/v1/tasks/status") request] := by
  simp only [FunaiNodeApi.queryInferenceTaskStatus, dateNow_bind, bind_ok, liftExcept_apply_ok,
    request_apply_ok] at h
  obtain ⟨request, _, ⟨hrequest, rfl⟩, response, _, ⟨hresponse, rfl⟩, hread, rfl⟩ := h
  exact ⟨request, response, hrequest, hresponse, hread, by simp⟩

end FunaiSdk
