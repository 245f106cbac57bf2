import FunaiSdk.TaskQuery

/-!
# The signer's task and node endpoints

Most methods of `FunaiNodeApi` that talk to the signer fetch one URL under `baseUrl`, read
the answer as the envelope `ApiResponse`, and return its data or throw
`result.error || fallback`. Every error such a method throws is the transport's, the
signer's own non-empty message, or the method's fallback. The HTTP exchange is a parameter,
which may fail before an envelope is read.
-/

namespace FunaiSdk

/-- `if (result.success && result.data) return result.data; else throw new Error(result.error
|| fallback)`. -/
def readData {α : Type} (fallback : String) (result : ApiResponse α) : Except String α :=
  match result.success, result.data with
  | true, some data => .ok data
  | _, _ => .error (errorOr result.error fallback)

/-- `if (!result.success) throw new Error(result.error || fallback)`. -/
def readAck {α : Type} (fallback : String) (result : ApiResponse α) : Except String Unit :=
  if result.success then .ok () else .error (errorOr result.error fallback)

section Envelope

variable {α : Type} {fallback : String} {result : ApiResponse α}

theorem readData_eq_error {e : String} (h : readData fallback result = .error e) :
    e = errorOr result.error fallback := by
  unfold readData at h
  split at h
  · cases h
  · exact (Except.error.inj h).symm

theorem readAck_eq_error {e : String} (h : readAck fallback result = .error e) :
    e = errorOr result.error fallback := by
  unfold readAck at h
  split at h
  · cases h
  · exact (Except.error.inj h).symm

/-- `result.error || fallback` is the fallback, or the signer's own message when it is not
empty. -/
theorem errorOr_cases (error : Option String) :
    errorOr error fallback = fallback ∨
      error = some (errorOr error fallback) ∧ errorOr error fallback ≠ "" := by
  unfold errorOr
  split
  · split <;> simp_all
  · exact .inl rfl

end Envelope

namespace FunaiNodeApi

variable (api : FunaiNodeApi) {α β : Type}

/-- The body of the methods that return the envelope's data: fetch the URL, read the
envelope. -/
def fetchData (fetch : String → Except String (ApiResponse α)) (path fallback : String) :
    Except String α := do
  let result ← fetch (api.baseUrl ++ path)
  readData fallback result

/-- The body of the methods that POST a request and check the envelope's `success`. -/
def postAck (post : String → β → Except String (ApiResponse String)) (path fallback : String)
    (request : β) : Except String Unit := do
  let result ← post (api.baseUrl ++ path) request
  readAck fallback result

def getInferTaskStatus (fetch : String → Except String (ApiResponse TaskStatusResponse))
    (taskId : String) : Except String TaskStatusResponse :=
  api.fetchData fetch ("/api/v1/tasks/" ++ taskId ++ "/status")
    "Failed to get inference task status"

def registerNode (post : String → β → Except String (ApiResponse String)) (request : β) :
    Except String Unit :=
  api.postAck post "/api/v1/nodes/register" "Failed to register inference node" request

def heartbeat (post : String → β → Except String (ApiResponse String)) (request : β) :
    Except String Unit :=
  api.postAck post "/api/v1/nodes/heartbeat" "Failed to send heartbeat" request

/-- A 204 answer has no body: it is read as no task, before any parse. -/
def getAvailableTasks (fetch : String → Except String StatusHttpResponse) (nodeId : String) :
    Except String (Option TaskStatusResponse) := do
  let response ← fetch (api.baseUrl ++ "/api/v1/nodes/" ++ nodeId ++ "/tasks")
  if response.status = 204 then return none
  let result ← response.body
  some <$> readData "Failed to get available tasks" result

def completeTask (post : String → β → Except String (ApiResponse String)) (request : β) :
    Except String Unit :=
  api.postAck post "/api/v1/tasks/complete" "Failed to complete task" request

/-- `getStats`, whose `StatsResponse` is outside the sources. -/
def getStats (fetch : String → Except String (ApiResponse α)) : Except String α :=
  api.fetchData fetch "/api/v1/stats" "Failed to get statistics"

/-- `getAllNodes`, whose `InferenceNodeResponse[]` is outside the sources. -/
def getAllNodes (fetch : String → Except String (ApiResponse α)) : Except String α :=
  api.fetchData fetch "/api/v1/nodes" "Failed to get inference nodes"

section Endpoints

variable {api} {path fallback : String}

/-- A data method throws the transport's error, the signer's own non-empty message, or its
fallback. -/
theorem fetchData_error {fetch : String → Except String (ApiResponse α)} {e : String}
    (h : api.fetchData fetch path fallback = .error e) :
    fetch (api.baseUrl ++ path) = .error e ∨
      ∃ result, fetch (api.baseUrl ++ path) = .ok result ∧
        (e = fallback ∨ result.error = some e ∧ e ≠ "") := by
  unfold fetchData at h
  cases hfetch : fetch (api.baseUrl ++ path) with
  | error e' => simp_all
  | ok result =>
    rw [hfetch] at h
    obtain rfl := readData_eq_error h
    exact .inr ⟨result, rfl, errorOr_cases _⟩

/-- A POST method throws the transport's error, the signer's own non-empty message, or its
fallback. -/
theorem postAck_error {post : String → β → Except String (ApiResponse String)} {request : β}
    {e : String} (h : api.postAck post path fallback request = .error e) :
    post (api.baseUrl ++ path) request = .error e ∨
      ∃ result, post (api.baseUrl ++ path) request = .ok result ∧
        (e = fallback ∨ result.error = some e ∧ e ≠ "") := by
  unfold postAck at h
  cases hpost : post (api.baseUrl ++ path) request with
  | error e' => simp_all
  | ok result =>
    rw [hpost] at h
    obtain rfl := readAck_eq_error h
    exact .inr ⟨result, rfl, errorOr_cases _⟩

end Endpoints

end FunaiNodeApi

end FunaiSdk
