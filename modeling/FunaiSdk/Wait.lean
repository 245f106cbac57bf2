import FunaiSdk.TaskQuery

/-!
# Waiting for a task's result

`waitForInferenceResult` polls a task's status until the signer reports it settled or more
than `timeoutMs` milliseconds have passed, waiting `pollIntervalMs` between polls. The source
loops with `while (true)`; the model runs the loop on fuel, and `none` says the fuel ran out.
The settings are JavaScript numbers, and a timeout of `Infinity` or `NaN` is never exceeded,
so then a task the signer keeps pending is polled for ever.
-/

namespace FunaiSdk

variable {σ : Type} (c : Collaborators) (crypto : Crypto)

/-- `const { x = d } = options`: the default replaces an absent or `undefined` value, and a
`null` stays, as `none`. -/
def JsOpt.withDefault {α : Type} (default : α) : JsOpt α → Option α
  | .absent | .undefined => some default
  | .null => none
  | .value a => some a

/-- A number, or `null`, in a template literal. -/
def numberText : Option JsNumber → String
  | some (.finite v) => toString v
  | some (.infinite false) => "Infinity"
  | some (.infinite true) => "-Infinity"
  | some .nan => "NaN"
  | none => "null"

/-- `elapsed > timeoutMs` for an integer `elapsed`, as JavaScript compares: `null` is read as
`0`, no number exceeds `Infinity` or `NaN`, and every number exceeds `-Infinity`. -/
def exceeds (elapsed : Int) : Option JsNumber → Bool
  | some (.finite v) => decide (v < elapsed)
  | some (.infinite negative) => negative
  | some .nan => false
  | none => decide (0 < elapsed)

theorem exceeds_mono {elapsed elapsed' : Int} {timeoutMs : Option JsNumber}
    (hle : elapsed ≤ elapsed') (h : exceeds elapsed timeoutMs = true) :
    exceeds elapsed' timeoutMs = true := by
  rcases timeoutMs with _ | (_ | _ | _) <;> simp only [exceeds, decide_eq_true_eq] at h ⊢ <;>
    first | omega | exact h

/-- A timeout is exceeded by every elapsed time past some bound exactly when it is neither
`Infinity` nor `NaN`. -/
theorem exists_bound_exceeds_iff (timeoutMs : Option JsNumber) :
    (∃ bound : Int, ∀ elapsed, bound < elapsed → exceeds elapsed timeoutMs = true) ↔
      timeoutMs ≠ some (.infinite false) ∧ timeoutMs ≠ some .nan := by
  have hnever : ∀ {t : Option JsNumber}, (∀ elapsed, exceeds elapsed t = false) →
      ¬ ∃ bound : Int, ∀ elapsed, bound < elapsed → exceeds elapsed t = true :=
    fun hfalse ⟨bound, hbound⟩ => by simpa [hfalse] using hbound (bound + 1) (by omega)
  rcases timeoutMs with _ | (v | (_ | _) | _)
  · exact iff_of_true ⟨0, fun _ h => decide_eq_true h⟩ (by simp)
  · exact iff_of_true ⟨v, fun _ h => decide_eq_true h⟩ (by simp)
  · exact iff_of_false (hnever fun _ => rfl) (by simp)
  · exact iff_of_true ⟨0, fun _ _ => rfl⟩ (by simp)
  · exact iff_of_false (hnever fun _ => rfl) (by simp)

/-- The options of `waitForInferenceResult`. -/
structure WaitOptions extends QueryTaskOptions where
  pollIntervalMs : JsOpt JsNumber
  timeoutMs : JsOpt JsNumber

/-- What the loop makes of a polled status: a completed task is returned, a failed or
timed-out one throws, and any other status polls again. -/
def settledStatus (taskId : String) (status : TaskStatusResponse) :
    Except String (Option TaskStatusResponse) :=
  if status.status = "completed" ∨ status.status = "Completed" then .ok (some status)
  else if status.status = "failed" ∨ status.status = "Failed" then
    .error ("Inference task failed: " ++ taskId)
  else if status.status = "timeout" ∨ status.status = "Timeout" then
    .error ("Inference task timed out: " ++ taskId)
  else .ok none

theorem settledStatus_some {taskId : String} {status done : TaskStatusResponse}
    (h : settledStatus taskId status = .ok (some done)) :
    done = status ∧ (status.status = "completed" ∨ status.status = "Completed") := by
  unfold settledStatus at h
  split_ifs at h with hcompleted <;> cases h
  exact ⟨rfl, hcompleted⟩

/-- How long a call waits at least: `setTimeout` waits a whole `ms` up to `2^31 - 1`, and
past that bound, or for `Infinity`, `NaN` or `null`, it may fire at once. -/
def Call.delay : Call → Nat
  | .sleep (some (.finite ms)) => if ms ≤ 2147483647 then ms.toNat else 0
  | _ => 0

@[simp] theorem Call.delay_dateNow : Call.delay .dateNow = 0 := rfl

/-- A clock that never goes back, and that a wait of `ms` moves by at least `ms`. -/
def ClockAdvances (c : Collaborators) : Prop :=
  ∀ calls call, c.dateNow calls + call.delay ≤ c.dateNow (calls ++ [call])

theorem ClockAdvances.mono {c : Collaborators} (hclock : ClockAdvances c) :
    ∀ (calls more : List Call), c.dateNow calls ≤ c.dateNow (calls ++ more)
  | calls, [] => by rw [List.append_nil]
  | calls, call :: more => by
    have hstep := hclock calls call
    have hrest := hclock.mono (calls ++ [call]) more
    rw [List.append_assoc, List.singleton_append] at hrest
    omega

/-- The toy services, with a clock that every step moves by a millisecond, and a wait by its
length besides. -/
def waitingServices : Collaborators :=
  { toyServices with dateNow := fun calls => calls.foldl (fun now call => now + call.delay + 1) 0 }

theorem clockAdvances_waitingServices : ClockAdvances waitingServices := fun calls call => by
  simp [waitingServices, List.foldl_append]

namespace FunaiNodeApi

variable (api : FunaiNodeApi)

/-- One round of the `while (true)` loop: a poll, the status checks, the timeout check and
the wait. `some` is the `return` that leaves the loop. -/
def waitRound (options : QueryTaskOptions) (pollIntervalMs timeoutMs : Option JsNumber)
    (startTime : Nat) : Run σ (Option TaskStatusResponse) := do
  let status ← api.queryInferenceTaskStatus c crypto options
  match ← liftExcept (settledStatus options.taskId status) with
  | some done => pure (some done)
  | none =>
    let now ← dateNow c
    if exceeds ((now : Int) - startTime) timeoutMs then
      throw ("Timed out waiting for inference result after " ++ numberText timeoutMs ++ "ms")
    sleep pollIntervalMs
    pure none

/-- The loop, given `fuel` rounds: `none` is the fuel running out. -/
def waitLoop (options : QueryTaskOptions) (pollIntervalMs timeoutMs : Option JsNumber)
    (startTime : Nat) : Nat → Run σ (Option TaskStatusResponse)
  | 0 => pure none
  | fuel + 1 => do
    match ← api.waitRound c crypto options pollIntervalMs timeoutMs startTime with
    | some done => pure (some done)
    | none => waitLoop options pollIntervalMs timeoutMs startTime fuel

def waitForInferenceResult (options : WaitOptions) (fuel : Nat) :
    Run σ (Option TaskStatusResponse) := do
  let pollIntervalMs := options.pollIntervalMs.withDefault (.finite 2000)
  let timeoutMs := options.timeoutMs.withDefault (.finite 300000)
  let startTime ← dateNow c
  api.waitLoop c crypto options.toQueryTaskOptions pollIntervalMs timeoutMs startTime fuel

section Loop

variable {c crypto api} {options : QueryTaskOptions} {pollIntervalMs timeoutMs : Option JsNumber}
  {startTime : Nat}

/-- One more round of fuel: the loop runs the next round, and goes on only when the round
does. -/
theorem waitLoop_succ_eq {fuel : Nat} {w : World σ}
    {r : EStateM.Result String (World σ) (Option TaskStatusResponse)} :
    api.waitLoop c crypto options pollIntervalMs timeoutMs startTime (fuel + 1) w = r ↔
      (∃ w₁, api.waitRound c crypto options pollIntervalMs timeoutMs startTime w = .ok none w₁ ∧
        api.waitLoop c crypto options pollIntervalMs timeoutMs startTime fuel w₁ = r) ∨
      (api.waitRound c crypto options pollIntervalMs timeoutMs startTime w = r ∧
        ∀ w', r ≠ .ok none w') := by
  simp only [waitLoop, bind, EStateM.bind]
  cases api.waitRound c crypto options pollIntervalMs timeoutMs startTime w with
  | ok settled w₁ => cases settled <;> aesop
  | error e w₁ => aesop

/-- A round that returns polled a status, and either returns it completed, or found it
unsettled within the timeout and waited the interval. -/
theorem waitRound_ok {w w' : World σ} {r : Option TaskStatusResponse}
    (h : api.waitRound c crypto options pollIntervalMs timeoutMs startTime w = .ok r w') :
    ∃ status w₁, api.queryInferenceTaskStatus c crypto options w = .ok status w₁ ∧
      (r = some status ∧ (status.status = "completed" ∨ status.status = "Completed") ∧ w' = w₁ ∨
        r = none ∧ settledStatus options.taskId status = .ok none ∧
          exceeds ((c.dateNow w₁.calls : Int) - startTime) timeoutMs = false ∧
          w' = (w₁.log .dateNow).log (.sleep pollIntervalMs)) := by
  simp only [waitRound, bind_ok, liftExcept_apply_ok] at h
  obtain ⟨status, _, hquery, settled, _, ⟨hsettled, rfl⟩, h⟩ := h
  refine ⟨status, _, hquery, ?_⟩
  cases settled with
  | some done =>
    obtain ⟨rfl, hcompleted⟩ := settledStatus_some hsettled
    simp only [pure_apply, EStateM.Result.ok.injEq] at h
    exact .inl ⟨h.1.symm, hcompleted, h.2.symm⟩
  | none =>
    simp only [dateNow_bind] at h
    split_ifs at h with htimeout
    · simp at h
    · simp only [bind_ok, pure_apply, sleep_bind, EStateM.Result.ok.injEq] at h
      obtain ⟨-, _, ⟨-, rfl⟩, rfl, rfl⟩ := h
      exact .inr ⟨rfl, hsettled, Bool.eq_false_iff.mpr htimeout, rfl⟩

/-- A round that throws passes on the query's error, or throws for a status the loop reads
as settled with an error, or throws its own time-out after a clock reading more than
`timeoutMs` past the start. -/
theorem waitRound_error {w w' : World σ} {e : String}
    (h : api.waitRound c crypto options pollIntervalMs timeoutMs startTime w = .error e w') :
    api.queryInferenceTaskStatus c crypto options w = .error e w' ∨
      ∃ status w₁, api.queryInferenceTaskStatus c crypto options w = .ok status w₁ ∧
        (settledStatus options.taskId status = .error e ∧ w' = w₁ ∨
          exceeds ((c.dateNow w₁.calls : Int) - startTime) timeoutMs = true ∧
          e = "Timed out waiting for inference result after " ++ numberText timeoutMs ++ "ms" ∧
          w' = w₁.log .dateNow) := by
  simp only [waitRound, bind_error, bind_ok, liftExcept_apply_ok, liftExcept_apply_error] at h
  rcases h with h | ⟨status, w₁, hquery, h⟩
  · exact .inl h
  refine .inr ⟨status, w₁, hquery, ?_⟩
  rcases h with ⟨hsettled, rfl⟩ | ⟨settled, _, ⟨hsettled, rfl⟩, h⟩
  · exact .inl ⟨hsettled, rfl⟩
  cases settled with
  | some done => simp at h
  | none =>
    simp only [dateNow_bind] at h
    split_ifs at h with htimeout
    · simp only [throw_bind, throw_apply, EStateM.Result.error.injEq] at h
      obtain ⟨rfl, rfl⟩ := h
      exact .inr ⟨htimeout, rfl, rfl⟩
    · simp only [bind_error, pure_apply, sleep_bind] at h
      rcases h with h | ⟨_, _, -, h⟩ <;> cases h

/-- A round that goes on started within the timeout, and the clock after it has moved by the
interval at least. -/
theorem waitRound_goes_on (hclock : ClockAdvances c) {w w' : World σ}
    (h : api.waitRound c crypto options pollIntervalMs timeoutMs startTime w = .ok none w') :
    exceeds ((c.dateNow w.calls : Int) - startTime) timeoutMs = false ∧
      c.dateNow w.calls + (Call.sleep pollIntervalMs).delay ≤ c.dateNow w'.calls := by
  obtain ⟨_, w₁, hquery, ⟨h, -⟩ | ⟨-, -, hwithin, rfl⟩⟩ := waitRound_ok h
  · cases h
  obtain ⟨_, _, -, -, -, hcalls⟩ := queryInferenceTaskStatus_ok c crypto hquery
  have hpolled : c.dateNow w.calls ≤ c.dateNow w₁.calls := hcalls ▸ hclock.mono _ _
  have hread := hclock w₁.calls .dateNow
  have hwaited := hclock (w₁.calls ++ [.dateNow]) (.sleep pollIntervalMs)
  simp only [Call.delay_dateNow, World.calls_log] at hread hwaited ⊢
  refine ⟨Bool.eq_false_iff.mpr fun hexceeds => ?_, by omega⟩
  rw [exceeds_mono (by omega) hexceeds] at hwithin
  cases hwithin

/-- On such a clock, with a timeout that every elapsed time past `bound` exceeds, a loop whose
fuel of waits spans the rest of `bound` ends, with a status or an error, before its fuel runs
out. -/
theorem waitLoop_ends (hclock : ClockAdvances c) {bound : Int}
    (htimeout : ∀ elapsed, bound < elapsed → exceeds elapsed timeoutMs = true) :
    ∀ (fuel : Nat) (w : World σ),
      bound < (c.dateNow w.calls : Int) - startTime + (Call.sleep pollIntervalMs).delay * fuel →
      ∀ w', api.waitLoop c crypto options pollIntervalMs timeoutMs startTime (fuel + 1) w ≠ .ok none w'
  | fuel, w, hbound, w', h => by
    rcases waitLoop_succ_eq.mp h with ⟨w₁, hround, hrest⟩ | ⟨-, hended⟩
    · obtain ⟨hwithin, hwaited⟩ := waitRound_goes_on hclock hround
      have helapsed : (c.dateNow w.calls : Int) - startTime ≤ bound := by
        by_contra hpast
        rw [htimeout _ (by omega)] at hwithin
        cases hwithin
      cases fuel with
      | zero =>
        push_cast [Int.mul_zero] at hbound
        omega
      | succ fuel =>
        refine waitLoop_ends hclock htimeout fuel w₁ ?_ w' hrest
        push_cast [Int.mul_add] at hbound
        omega
    · exact hended w' rfl

/-- A loop that ended within its fuel ends the same way with one more round of fuel. -/
theorem waitLoop_succ_of_ended :
    ∀ {fuel : Nat} {w : World σ} {r : EStateM.Result String (World σ) (Option TaskStatusResponse)},
      api.waitLoop c crypto options pollIntervalMs timeoutMs startTime fuel w = r →
      (∀ w', r ≠ .ok none w') →
      api.waitLoop c crypto options pollIntervalMs timeoutMs startTime (fuel + 1) w = r
  | 0, w, _, rfl, hended => absurd rfl (hended w)
  | _ + 1, _, _, h, hended => by
    rcases waitLoop_succ_eq.mp h with ⟨w₁, hround, hrest⟩ | hround
    · exact waitLoop_succ_eq.mpr
        (.inl ⟨w₁, hround, waitLoop_succ_of_ended hrest hended⟩)
    · exact waitLoop_succ_eq.mpr (.inr hround)

theorem waitLoop_add {fuel : Nat} {w : World σ}
    {r : EStateM.Result String (World σ) (Option TaskStatusResponse)}
    (h : api.waitLoop c crypto options pollIntervalMs timeoutMs startTime fuel w = r)
    (hended : ∀ w', r ≠ .ok none w') :
    ∀ k, api.waitLoop c crypto options pollIntervalMs timeoutMs startTime (fuel + k) w = r
  | 0 => h
  | k + 1 => waitLoop_succ_of_ended (waitLoop_add h hended k) hended

/-- A loop that returns a status returns one the signer reported completed, in answer to the
run's last request, which was signed for the options' task. -/
theorem waitLoop_completed :
    ∀ {fuel : Nat} {w w' : World σ} {done : TaskStatusResponse},
      api.waitLoop c crypto options pollIntervalMs timeoutMs startTime fuel w = .ok (some done) w' →
      (done.status = "completed" ∨ done.status = "Completed") ∧
        ∃ timestamp request response calls,
          taskStatusRequest crypto options timestamp = .ok request ∧
          c.queryTaskStatus (api.baseUrl ++ "/api/v1/tasks/status") request = .ok response ∧
          readTaskStatus response = .ok done ∧
          w'.calls = calls ++ [.queryTaskStatus (api.baseUrl ++ "/api/v1/tasks/status") request]
  | 0, _, _, _, h => by cases h
  | _ + 1, w, _, _, h => by
    rcases waitLoop_succ_eq.mp h with ⟨_, -, hrest⟩ | ⟨hround, -⟩
    · exact waitLoop_completed hrest
    obtain ⟨_, _, hquery, ⟨hdone, hcompleted, rfl⟩ | ⟨hnone, -⟩⟩ :=
      waitRound_ok hround
    · cases hdone
      obtain ⟨request, response, hrequest, hresponse, hread, hcalls⟩ :=
        queryInferenceTaskStatus_ok c crypto hquery
      exact ⟨hcompleted, _, request, response, w.calls ++ [.dateNow], hrequest, hresponse, hread,
        by simp [hcalls]⟩
    · cases hnone

end Loop

/-- The calls a wait makes after the log `pre`: each reads the clock, waits `pollIntervalMs`,
or posts to the status URL the body signed for the options' task at the second of the clock
reading just before it. -/
def PollLog (options : QueryTaskOptions) (pollIntervalMs : Option JsNumber)
    (pre calls : List Call) :
    Prop :=
  ∀ before call after, calls = before ++ call :: after →
    call = .dateNow ∨ call = .sleep pollIntervalMs ∨
      ∃ earlier request,
        call = .queryTaskStatus (api.baseUrl ++ "/api/v1/tasks/status") request ∧
        before = earlier ++ [.dateNow] ∧
        taskStatusRequest crypto options (c.dateNow (pre ++ earlier) / 1000) = .ok request

section Polls

variable {c crypto api} {options : QueryTaskOptions}

section Log

variable {pollIntervalMs : Option JsNumber} {pre : List Call}

/-- Clock readings and waits send nothing. -/
theorem PollLog.of_clock {calls : List Call}
    (hcalls : ∀ call ∈ calls, call = .dateNow ∨ call = .sleep pollIntervalMs) :
    api.PollLog c crypto options pollIntervalMs pre calls := fun _ call _ h =>
  (hcalls call (h ▸ List.mem_append_right _ (List.mem_cons_self _ _))).imp_right .inl

theorem PollLog.query {request : AuthenticatedTaskStatusRequest}
    (hrequest : taskStatusRequest crypto options (c.dateNow pre / 1000) = .ok request) :
    api.PollLog c crypto options pollIntervalMs pre
      [.dateNow, .queryTaskStatus (api.baseUrl ++ "/api/v1/tasks/status") request] := by
  intro before call after h
  rcases before with _ | ⟨_, _ | ⟨_, _⟩⟩
  · exact .inl (List.cons.inj h).1.symm
  · obtain ⟨rfl, rfl, -⟩ : _ ∧ _ ∧ _ := by simpa using h
    exact .inr (.inr ⟨[], request, rfl, rfl, by rwa [List.append_nil]⟩)
  · simp at h

/-- Two logs in a row make one: the second's clock readings come after the first. -/
theorem PollLog.append {calls₁ calls₂ : List Call}
    (h₁ : api.PollLog c crypto options pollIntervalMs pre calls₁)
    (h₂ : api.PollLog c crypto options pollIntervalMs (pre ++ calls₁) calls₂) :
    api.PollLog c crypto options pollIntervalMs pre (calls₁ ++ calls₂) := by
  intro before call after h
  have hsplit : (∃ middle, before = calls₁ ++ middle ∧ calls₂ = middle ++ call :: after) ∨
      ∃ middle, calls₁ = before ++ call :: middle := by
    rcases List.append_eq_append_iff.mp h with h | ⟨_ | ⟨_, middle⟩, hcalls₁, hafter⟩
    · exact .inl h
    · exact .inl ⟨[], by simpa using hcalls₁.symm, hafter.symm⟩
    · obtain ⟨rfl, -⟩ := List.cons.inj hafter
      exact .inr ⟨middle, hcalls₁⟩
  rcases hsplit with ⟨middle, rfl, hcalls₂⟩ | ⟨middle, hcalls₁⟩
  · refine (h₂ middle call after hcalls₂).imp_right (Or.imp_right ?_)
    rintro ⟨earlier, request, hcall, rfl, hrequest⟩
    exact ⟨calls₁ ++ earlier, request, hcall, by simp, by rwa [← List.append_assoc]⟩
  · exact h₁ before call middle hcalls₁

/-- A query, whatever its result, sends at most the body signed at the second of its clock
reading. -/
theorem queryInferenceTaskStatus_pollLog {w : World σ}
    {r : EStateM.Result String (World σ) TaskStatusResponse}
    (h : api.queryInferenceTaskStatus c crypto options w = r) :
    ∃ calls, (worldAfter r).calls = w.calls ++ calls ∧
      api.PollLog c crypto options pollIntervalMs w.calls calls := by
  obtain ⟨calls, hcalls, rfl | ⟨request, rfl, hrequest⟩⟩ :=
    queryInferenceTaskStatus_signs c crypto api options w
  · exact ⟨_, h ▸ hcalls, .of_clock (by simp)⟩
  · exact ⟨_, h ▸ hcalls, .query hrequest⟩

end Log

variable {pollIntervalMs timeoutMs : Option JsNumber} {startTime : Nat}

/-- A round, whatever its result, adds at most a clock reading and a wait to its query's
calls. -/
theorem waitRound_after_query {w : World σ}
    {r : EStateM.Result String (World σ) (Option TaskStatusResponse)}
    (h : api.waitRound c crypto options pollIntervalMs timeoutMs startTime w = r) :
    ∃ r₀ tail, api.queryInferenceTaskStatus c crypto options w = r₀ ∧
      (worldAfter r).calls = (worldAfter r₀).calls ++ tail ∧
      ∀ call ∈ tail, call = .dateNow ∨ call = .sleep pollIntervalMs := by
  cases r with
  | ok _ _ =>
    obtain ⟨_, _, hquery, ⟨-, -, rfl⟩ | ⟨-, -, -, rfl⟩⟩ := waitRound_ok h
    · exact ⟨_, [], hquery, (List.append_nil _).symm, by simp⟩
    · exact ⟨_, [.dateNow, .sleep pollIntervalMs], hquery, by simp [worldAfter], by simp⟩
  | error _ _ =>
    rcases waitRound_error h with hquery | ⟨_, _, hquery, ⟨-, rfl⟩ | ⟨-, -, rfl⟩⟩
    · exact ⟨_, [], hquery, (List.append_nil _).symm, by simp⟩
    · exact ⟨_, [], hquery, (List.append_nil _).symm, by simp⟩
    · exact ⟨_, [.dateNow], hquery, by simp [worldAfter], by simp⟩

theorem waitRound_pollLog {w : World σ}
    {r : EStateM.Result String (World σ) (Option TaskStatusResponse)}
    (h : api.waitRound c crypto options pollIntervalMs timeoutMs startTime w = r) :
    ∃ calls, (worldAfter r).calls = w.calls ++ calls ∧
      api.PollLog c crypto options pollIntervalMs w.calls calls := by
  obtain ⟨_, tail, hquery, htail, hclock⟩ := waitRound_after_query h
  obtain ⟨calls, hcalls, hlog⟩ := queryInferenceTaskStatus_pollLog hquery
  exact ⟨calls ++ tail, by rw [htail, hcalls, List.append_assoc], hlog.append (.of_clock hclock)⟩

/-- A loop, whatever its result and its fuel, sends only polls. -/
theorem waitLoop_pollLog :
    ∀ {fuel : Nat} {w : World σ} {r : EStateM.Result String (World σ) (Option TaskStatusResponse)},
      api.waitLoop c crypto options pollIntervalMs timeoutMs startTime fuel w = r →
      ∃ calls, (worldAfter r).calls = w.calls ++ calls ∧
        api.PollLog c crypto options pollIntervalMs w.calls calls
  | 0, _, _, rfl => ⟨[], (List.append_nil _).symm, .of_clock (by simp)⟩
  | _ + 1, _, _, h => by
    rcases waitLoop_succ_eq.mp h with ⟨_, hround, hrest⟩ | ⟨hround, -⟩
    · obtain ⟨calls₁, hcalls₁, hlog₁⟩ := waitRound_pollLog hround
      obtain ⟨calls₂, hcalls₂, hlog₂⟩ := waitLoop_pollLog hrest
      simp only [worldAfter] at hcalls₁
      rw [hcalls₁] at hcalls₂ hlog₂
      exact ⟨calls₁ ++ calls₂, by rw [hcalls₂, List.append_assoc], hlog₁.append hlog₂⟩
    · exact waitRound_pollLog hround

end Polls

end FunaiNodeApi

/-- A wait that returns a status returns one the signer reported completed, in answer to the
run's last request, which was signed for the options' task. -/
theorem waitForInferenceResult_completed (api : FunaiNodeApi) (options : WaitOptions)
    (fuel : Nat) {w w' : World σ} {status : TaskStatusResponse}
    (h : api.waitForInferenceResult c crypto options fuel w = .ok (some status) w') :
    (status.status = "completed" ∨ status.status = "Completed") ∧
      ∃ timestamp request response calls,
        FunaiNodeApi.taskStatusRequest crypto options.toQueryTaskOptions timestamp = .ok request ∧
        c.queryTaskStatus (api.baseUrl ++ "/api/v1/tasks/status") request = .ok response ∧
        FunaiNodeApi.readTaskStatus response = .ok status ∧
        w'.calls = calls ++ [.queryTaskStatus (api.baseUrl ++ "/api/v1/tasks/status") request] :=
  FunaiNodeApi.waitLoop_completed h

/-- The toy signer answers the first poll with a completed status. -/
theorem waitForInferenceResult_completed_first_poll :
    ∃ status w', (⟨"http://localhost:8080", funaiTestnet⟩ : FunaiNodeApi).waitForInferenceResult
        toyServices toyCrypto ⟨⟨"api-12345-abcde", toyKey⟩, .absent, .absent⟩ 1
        (⟨[], ()⟩ : World Unit) = .ok (some status) w' ∧
      (status.status = "completed" ∨ status.status = "Completed") ∧
      ∃ timestamp request response calls,
        FunaiNodeApi.taskStatusRequest toyCrypto ⟨"api-12345-abcde", toyKey⟩ timestamp =
          .ok request ∧
        toyServices.queryTaskStatus ("http://localhost:8080" ++ "/api/v1/tasks/status") request =
          .ok response ∧
        FunaiNodeApi.readTaskStatus response = .ok status ∧
        w'.calls = calls ++
          [.queryTaskStatus ("http://localhost:8080" ++ "/api/v1/tasks/status") request] :=
  let ⟨status, w', h⟩ : ∃ status w',
      (⟨"http://localhost:8080", funaiTestnet⟩ : FunaiNodeApi).waitForInferenceResult toyServices
        toyCrypto ⟨⟨"api-12345-abcde", toyKey⟩, .absent, .absent⟩ 1 (⟨[], ()⟩ : World Unit) =
        .ok (some status) w' := ⟨_, _, rfl⟩
  ⟨status, w', h, waitForInferenceResult_completed toyServices toyCrypto
    ⟨"http://localhost:8080", funaiTestnet⟩ ⟨⟨"api-12345-abcde", toyKey⟩, .absent, .absent⟩ 1 h⟩

/-- Whatever its result and its fuel, a wait reads the clock, and then every call it makes
reads the clock, waits the interval, or posts to the status URL a body for the options' task,
stamped with the second of the clock reading just before it, that the signer verifies against
the public key of the caller's key. -/
theorem waitForInferenceResult_polls_signed (api : FunaiNodeApi) (options : WaitOptions)
    (fuel : Nat) (w : World σ) :
    ∃ calls, (worldAfter (api.waitForInferenceResult c crypto options fuel w)).calls =
        w.calls ++ .dateNow :: calls ∧
      ∀ before call after, calls = before ++ call :: after →
        call = .dateNow ∨ call = .sleep (options.pollIntervalMs.withDefault (.finite 2000)) ∨
        ∃ earlier request key,
          call = .queryTaskStatus (api.baseUrl ++ "/api/v1/tasks/status") request ∧
          before = earlier ++ [.dateNow] ∧ request.taskId = options.taskId ∧
          request.timestamp = c.dateNow (w.calls ++ .dateNow :: earlier) / 1000 ∧
          privateKeyToBytes (.hex options.privateKey) = .ok key ∧
          QuerySignedBy crypto request (crypto.publicKeyOf key) := by
  obtain ⟨calls, hcalls, hlog⟩ := FunaiNodeApi.waitLoop_pollLog
    (show api.waitLoop c crypto options.toQueryTaskOptions _ _ (c.dateNow w.calls) fuel
      (w.log .dateNow) = api.waitForInferenceResult c crypto options fuel w from rfl)
  refine ⟨calls, by simpa using hcalls, fun before call after hsplit => ?_⟩
  rcases hlog before call after hsplit with h | h | ⟨earlier, request, hcall, hbefore, hrequest⟩
  · exact .inl h
  · exact .inr (.inl h)
  obtain ⟨htask, htimestamp, key, hkey, hsigned⟩ := taskStatusRequest_signedBy crypto hrequest
  exact .inr (.inr ⟨earlier, request, key, hcall, hbefore, htask, by simpa using htimestamp,
    hkey, hsigned⟩)

/-- Rounds of a positive interval, one more than fit in the timeout, span it. -/
theorem lt_mul_toNat_div_succ {P : Int} (T : Int) (hP : 0 < P) :
    T < P * ((T.toNat / P.toNat + 1 : Nat) : Int) := by
  have hlt : T.toNat < P.toNat * (T.toNat / P.toNat + 1) := Nat.lt_mul_div_succ _ (by omega)
  have hcast : ((T.toNat : Nat) : Int) < (P.toNat : Int) * ((T.toNat / P.toNat + 1 : Nat) : Int) := by
    exact_mod_cast hlt
  rw [Int.toNat_of_nonneg hP.le] at hcast
  omega

/-- On a clock that never goes back and that a wait of `ms` moves by at least `ms`, with a whole
interval from `1` to `2^31 - 1` and a timeout that every elapsed time past `bound` exceeds, a
wait ends, with a status or an error, by its `bound / pollIntervalMs + 2`-th round whatever
the signer answers, and more fuel ends it the same way. -/
theorem waitForInferenceResult_ends (hclock : ClockAdvances c) (api : FunaiNodeApi)
    (options : WaitOptions) {interval bound : Int}
    (hpoll : options.pollIntervalMs.withDefault (.finite 2000) = some (.finite interval))
    (hpositive : 0 < interval) (hmax : interval ≤ 2147483647)
    (htimeout : ∀ elapsed, bound < elapsed →
      exceeds elapsed (options.timeoutMs.withDefault (.finite 300000)) = true)
    (w : World σ) :
    ∃ r : EStateM.Result String (World σ) (Option TaskStatusResponse),
      (∀ w', r ≠ .ok none w') ∧
      ∀ fuel, bound.toNat / interval.toNat + 2 ≤ fuel →
        api.waitForInferenceResult c crypto options fuel w = r := by
  have hdelay : ((Call.sleep (options.pollIntervalMs.withDefault (.finite 2000))).delay : Int) =
      interval := by
    simp [hpoll, Call.delay, hmax, hpositive.le]
  have hspan := lt_mul_toNat_div_succ bound hpositive
  have hread := hclock w.calls .dateNow
  rw [Call.delay_dateNow, Nat.add_zero] at hread
  have hended : ∀ w', api.waitForInferenceResult c crypto options
      (bound.toNat / interval.toNat + 2) w ≠ .ok none w' :=
    FunaiNodeApi.waitLoop_ends hclock htimeout _ _ (by rw [World.calls_log, hdelay]; omega)
  refine ⟨_, hended, fun fuel hfuel => ?_⟩
  obtain ⟨k, rfl⟩ := Nat.exists_eq_add_of_le hfuel
  exact FunaiNodeApi.waitLoop_add rfl hended k

/-- With the default settings, on the waiting clock: the wait ends by its 152nd round. -/
theorem waitForInferenceResult_ends_defaults :
    ClockAdvances waitingServices ∧
      (JsOpt.absent : JsOpt JsNumber).withDefault (.finite 2000) = some (.finite 2000) ∧
      (0 : Int) < 2000 ∧ (2000 : Int) ≤ 2147483647 ∧
      (∀ elapsed, (300000 : Int) < elapsed →
        exceeds elapsed ((JsOpt.absent : JsOpt JsNumber).withDefault (.finite 300000)) = true) ∧
      ∃ r : EStateM.Result String (World Unit) (Option TaskStatusResponse),
        (∀ w', r ≠ .ok none w') ∧
        ∀ fuel, (300000 : Int).toNat / (2000 : Int).toNat + 2 ≤ fuel →
          (⟨"http://localhost:8080", funaiTestnet⟩ : FunaiNodeApi).waitForInferenceResult
            waitingServices toyCrypto ⟨⟨"api-12345-abcde", toyKey⟩, .absent, .absent⟩ fuel
            ⟨[], ()⟩ = r :=
  ⟨clockAdvances_waitingServices, rfl, by decide, by decide, fun _ h => decide_eq_true h,
    waitForInferenceResult_ends waitingServices toyCrypto clockAdvances_waitingServices
      ⟨"http://localhost:8080", funaiTestnet⟩ ⟨⟨"api-12345-abcde", toyKey⟩, .absent, .absent⟩
      rfl (by decide) (by decide) (fun _ h => decide_eq_true h) ⟨[], ()⟩⟩

namespace FunaiNodeApi

section Pending

variable {c crypto} {api : FunaiNodeApi} {options : QueryTaskOptions} {key : Bytes}
  {pollIntervalMs timeoutMs : Option JsNumber} {startTime : Nat}

end Pending

end FunaiNodeApi

end FunaiSdk
