import BulkFhir.Contract

/-! # The job monitor

The goroutine of `MonitorJobStatus` as a loop over what the world supplies to
each pass: the clock reading of the loop test and the server's answers to the
poll and to a re-authentication. A run is the list of the goroutine's effects:
its two kinds of call, the sends on the channel, its sleeps and the final
`close(out)`. Runs are finite: the loop consumes one tick per clock reading,
and a run that outlives its ticks gives `none`; a clock reading past the
deadline ends every run (`monitorLoop_finishes`).

Each pass contributes to the stream exactly what its poll and re-authentication
returned, through `Iteration.contribution`. Every finished run sends exactly one
terminal result, last (`monitorJobStatus_terminal`), except in one case: a 200
answer whose body does not decode makes `JobStatus` return an error with
`IsComplete = true`, and the loop then stops with neither the completed status
nor `ErrorTimeout` on the channel. Whatever is sent is a status, or an error of the
kinds `JobStatus` and `ErrorTimeout` make (`monitorJobStatus_receivable`); and the
client the goroutine shares with its caller ends with the token of its last
successful re-authentication (`monitorJobStatus_token`).

A run here is what the goroutine does when every send goes through. The channel
holds 100 unread results, and `sendsThrough` cuts a run at the send that blocks
when the consumer stops reading (`monitorJobStatus_finishes`). Last, a caller's
method calls and finished goroutines together make one run of the client's
methods (`afterOps_token_discipline`).
-/

namespace BulkFhir

/-- `MonitorResult`. -/
structure MonitorResult where
  status : JobStatus := {}
  error : Option Error := none
  deriving DecidableEq, Repr

/-- What the goroutine does, in order. -/
inductive Effect
  /-- `c.JobStatus` returned `st, err`. -/
  | poll (st : JobStatus) (err : Option Error)
  /-- `c.Authenticate` returned `token, err`. -/
  | reauth (token : String) (err : Option Error)
  /-- `out <- r`. -/
  | send (r : MonitorResult)
  | sleep (d : Duration)
  /-- `close(out)`. -/
  | close
  deriving DecidableEq, Repr

/-- The `MonitorResult` an effect puts on the channel. -/
def Effect.sent? : Effect → Option MonitorResult
  | .send r => some r
  | _ => none

/-- The `MonitorResult`s a run sends, in order. -/
def sent (es : List Effect) : List MonitorResult := es.filterMap Effect.sent?

@[simp] theorem sent_append (es es' : List Effect) : sent (es ++ es') = sent es ++ sent es' :=
  List.filterMap_append _ _ _

/-- A result the stream ends with: a completed status, or `ErrorTimeout`. -/
def MonitorResult.Terminal (r : MonitorResult) : Prop :=
  (r.error = none ∧ r.status.isComplete = true) ∨ r.error = some errorTimeout

instance : DecidablePred MonitorResult.Terminal :=
  fun r => inferInstanceAs
    (Decidable ((r.error = none ∧ r.status.isComplete = true) ∨ r.error = some errorTimeout))

/-- What the world supplies to one loop test and the pass it starts. -/
structure Tick where
  now : Time
  status : Exchange (Except String JobStatusResponse)
  auth : Exchange (Except String TokenResponse)

/-! ## The loop -/

/-- `if !jobStatus.IsComplete { time.Sleep(checkPeriod) }`. -/
def sleepUnlessComplete (checkPeriod : Duration) (st : JobStatus) : List Effect :=
  if st.isComplete then [] else [.sleep checkPeriod]

/-- One pass of the loop body: its effects, then the client and `jobStatus` after it. -/
def monitorStep (lib : Lib) (url : String) (checkPeriod : Duration) (c : Client) (t : Tick) :
    List Effect × Client × JobStatus :=
  let o := c.jobStatus lib url t.status
  match o.err with
  | none =>
      (.poll o.value none :: .send ⟨o.value, none⟩ :: sleepUnlessComplete checkPeriod o.value,
        c, o.value)
  | some err =>
      if err.is .unauthorized then
        let a := c.authenticate lib t.auth
        (.poll o.value (some err) :: .reauth a.value a.err ::
          (match a.err with
           | some e => [.send ⟨{}, some e⟩]
           | none => []), a.client, o.value)
      else
        (.poll o.value (some err) :: .send ⟨{}, some err⟩ ::
          sleepUnlessComplete checkPeriod o.value, c, o.value)

/-- After the loop: `ErrorTimeout` unless the job completed, then `close(out)`. -/
def afterLoop (jobStatus : JobStatus) : List Effect :=
  (if jobStatus.isComplete then [] else [.send ⟨{}, some errorTimeout⟩]) ++ [.close]

@[simp] theorem sent_afterLoop (jobStatus : JobStatus) :
    sent (afterLoop jobStatus) = if jobStatus.isComplete then [] else [⟨{}, some errorTimeout⟩] := by
  unfold afterLoop; split <;> rfl

/-- `for !jobStatus.IsComplete && time.Now().Before(deadline)`, one tick for each test
that reads the clock; `none` when the ticks run out first. -/
def monitorLoop (lib : Lib) (url : String) (checkPeriod : Duration) (deadline : Time) :
    Client → JobStatus → List Tick → Option (List Effect × Client)
  | c, js, [] => if js.isComplete then some (afterLoop js, c) else none
  | c, js, t :: ts =>
      if js.isComplete then some (afterLoop js, c)
      else if t.now.before deadline then
        let r := monitorStep lib url checkPeriod c t
        (fun p => (r.1 ++ p.1, p.2)) <$> monitorLoop lib url checkPeriod deadline r.2.1 r.2.2 ts
      else some (afterLoop js, c)

/-- `MonitorJobStatus`, started at `start`: the goroutine's effects and the client it
leaves, against a consumer that keeps reading the channel; `sendsThrough` cuts the
effects at the send that blocks when the consumer stops. -/
def Client.monitorJobStatus (lib : Lib) (c : Client) (url : String)
    (checkPeriod timeout : Duration) (start : Time) (ticks : List Tick) :
    Option (List Effect × Client) :=
  monitorLoop lib url checkPeriod (start.add timeout) c {} ticks

section Loop

variable {lib : Lib} {url : String} {checkPeriod : Duration} {deadline : Time}

theorem monitorLoop_of_isComplete (c : Client) {js : JobStatus} (ticks : List Tick)
    (hc : js.isComplete = true) :
    monitorLoop lib url checkPeriod deadline c js ticks = some (afterLoop js, c) := by
  cases ticks <;> simp [monitorLoop, hc]

theorem monitorLoop_of_deadline (c : Client) {js : JobStatus} {t : Tick} (ts : List Tick)
    (hb : t.now.before deadline = false) :
    monitorLoop lib url checkPeriod deadline c js (t :: ts) = some (afterLoop js, c) := by
  simp [monitorLoop, hb]

theorem monitorLoop_of_running (c : Client) {js : JobStatus} {t : Tick} (ts : List Tick)
    (hc : js.isComplete = false) (hb : t.now.before deadline = true) :
    monitorLoop lib url checkPeriod deadline c js (t :: ts) =
      (fun p => ((monitorStep lib url checkPeriod c t).1 ++ p.1, p.2)) <$>
        monitorLoop lib url checkPeriod deadline (monitorStep lib url checkPeriod c t).2.1
          (monitorStep lib url checkPeriod c t).2.2 ts := by
  simp [monitorLoop, hc, hb]

/-- A finished run is the end of the loop on the client it started with, or one pass
followed by a finished run over the remaining ticks. -/
theorem monitorLoop_eq_some {c c' : Client} {js : JobStatus} {ticks : List Tick}
    {es : List Effect} (h : monitorLoop lib url checkPeriod deadline c js ticks = some (es, c')) :
    (es = afterLoop js ∧ c' = c ∧
        (js.isComplete = true ∨ ∃ t ts, ticks = t :: ts ∧ t.now.before deadline = false)) ∨
      ∃ t ts es', ticks = t :: ts ∧ js.isComplete = false ∧
        monitorLoop lib url checkPeriod deadline (monitorStep lib url checkPeriod c t).2.1
          (monitorStep lib url checkPeriod c t).2.2 ts = some (es', c') ∧
        es = (monitorStep lib url checkPeriod c t).1 ++ es' := by
  cases ticks with
  | nil =>
      unfold monitorLoop at h
      split at h
      · cases h; exact .inl ⟨rfl, rfl, .inl ‹_›⟩
      · cases h
  | cons t ts =>
      cases hc : js.isComplete
      · cases hb : t.now.before deadline
        · rw [monitorLoop_of_deadline c ts hb] at h
          cases h; exact .inl ⟨rfl, rfl, .inr ⟨t, ts, rfl, hb⟩⟩
        · rw [monitorLoop_of_running c ts hc hb] at h
          obtain ⟨⟨es', c''⟩, hrest, he⟩ := Option.map_eq_some'.1 h
          cases he
          exact .inr ⟨t, ts, es', rfl, rfl, hrest, rfl⟩
      · rw [monitorLoop_of_isComplete c _ hc] at h
        cases h; exact .inl ⟨rfl, rfl, .inl rfl⟩

end Loop

/-- A clock reading at or past the deadline ends the run. -/
theorem monitorLoop_finishes (lib : Lib) (url : String) (checkPeriod : Duration) (deadline : Time)
    (c : Client) (js : JobStatus) (ticks : List Tick)
    (h : ∃ t ∈ ticks, t.now.before deadline = false) :
    ∃ r, monitorLoop lib url checkPeriod deadline c js ticks = some r := by
  induction ticks generalizing c js with
  | nil => simp at h
  | cons t ts ih =>
      cases hc : js.isComplete
      · cases hb : t.now.before deadline
        · exact ⟨_, monitorLoop_of_deadline c ts hb⟩
        · obtain ⟨u, hu, hu'⟩ := h
          rcases List.mem_cons.1 hu with rfl | hu
          · simp [hb] at hu'
          obtain ⟨r, hr⟩ := ih (monitorStep lib url checkPeriod c t).2.1
            (monitorStep lib url checkPeriod c t).2.2 ⟨u, hu, hu'⟩
          exact ⟨_, by rw [monitorLoop_of_running c ts hc hb, hr]; rfl⟩
      · exact ⟨_, monitorLoop_of_isComplete c _ hc⟩

/-! ## What each pass contributes -/

/-- What one pass observed: the poll's results and, after an `ErrorUnauthorized`,
the re-authentication's. -/
structure Iteration where
  status : JobStatus
  err : Option Error
  auth : Option (String × Option Error)

/-- The calls of a pass, as the goroutine makes them. -/
def Iteration.calls (it : Iteration) : List Effect :=
  .poll it.status it.err :: (it.auth.map fun a => Effect.reauth a.1 a.2).toList

/-- What a pass puts on the stream and the clock: after an error that `Is`
`ErrorUnauthorized`, the re-authentication's error if it failed, and no sleep;
after another error, that error; after a success, the status; after these two,
a sleep unless the status is complete. -/
def Iteration.contribution (checkPeriod : Duration) (it : Iteration) : List Effect :=
  match it.err with
  | some e =>
      if e.is .unauthorized then
        match it.auth with
        | some (_, some ae) => [.send ⟨{}, some ae⟩]
        | _ => []
      else .send ⟨{}, some e⟩ :: if it.status.isComplete then [] else [.sleep checkPeriod]
  | none => .send ⟨it.status, none⟩ :: if it.status.isComplete then [] else [.sleep checkPeriod]

/-- A pass re-authenticates exactly after an `ErrorUnauthorized`, and the
re-authentication never fails with one. -/
def Iteration.WellFormed (it : Iteration) : Prop :=
  (it.auth.isSome ↔ ∃ e, it.err = some e ∧ e.is .unauthorized) ∧
    ∀ tok ae, it.auth = some (tok, some ae) → ae.is .unauthorized = false

/-- The `jobStatus` after the passes `its`, starting from `js`. -/
def Iteration.final (js : JobStatus) : List Iteration → JobStatus
  | [] => js
  | it :: its => final it.status its

/-- The pass the goroutine makes on client `c` with tick `t`. -/
def monitorIteration (lib : Lib) (url : String) (c : Client) (t : Tick) : Iteration :=
  let o := c.jobStatus lib url t.status
  { status := o.value, err := o.err,
    auth := if o.err.any (·.is .unauthorized) then
        some ((c.authenticate lib t.auth).value, (c.authenticate lib t.auth).err)
      else none }

/-- The client calls of a pass: the poll, then a re-authentication after
`ErrorUnauthorized`. -/
def passMethods (lib : Lib) (url : String) (c : Client) (t : Tick) : List Method :=
  .jobStatus url t.status ::
    if (c.jobStatus lib url t.status).err.any (·.is .unauthorized) then [.authenticate t.auth]
    else []

@[simp] theorem Iteration.sent_calls (it : Iteration) : sent it.calls = [] := by
  rcases it with ⟨_, _, _ | ⟨_, _⟩⟩ <;> rfl

/-- What a pass sends: after `ErrorUnauthorized`, the re-authentication's error if it
failed; after another error, that error; after a success, the status. -/
theorem Iteration.sent_contribution (checkPeriod : Duration) (it : Iteration) :
    sent (it.contribution checkPeriod) =
      match it.err with
      | some e =>
          if e.is .unauthorized then ((it.auth.bind (·.2)).map fun ae => ⟨{}, some ae⟩).toList
          else [⟨{}, some e⟩]
      | none => [⟨it.status, none⟩] := by
  rcases it with ⟨status, _ | e, _ | ⟨tok, _ | ae⟩⟩ <;>
    simp [Iteration.contribution, sent, Effect.sent?] <;> split_ifs <;> rfl

theorem Iteration.sent_not_unauthorized {checkPeriod : Duration} {it : Iteration}
    (hwf : it.WellFormed) {r : MonitorResult} (hr : r ∈ sent (it.contribution checkPeriod))
    {e : Error} (he : r.error = some e) : e.is .unauthorized = false := by
  rw [Iteration.sent_contribution] at hr
  rcases it with ⟨status, _ | e', auth⟩
  · simp at hr; subst hr; cases he
  by_cases hu : e'.is .unauthorized
  · rcases auth with _ | ⟨tok, _ | ae⟩ <;> simp [hu] at hr
    subst hr; cases he
    exact hwf.2 tok e rfl
  · simp [hu] at hr; subst hr; cases he; simpa using hu

theorem Iteration.sent_terminal (checkPeriod : Duration) (it : Iteration)
    (herr : ∀ e, it.err = some e → e ≠ errorTimeout)
    (hauth : ∀ tok ae, it.auth = some (tok, some ae) → ae ≠ errorTimeout)
    (hcomp : it.status.isComplete = true → it.err = none) :
    (it.status.isComplete = false ∧ ∀ r ∈ sent (it.contribution checkPeriod), ¬ r.Terminal) ∨
      (it.status.isComplete = true ∧ sent (it.contribution checkPeriod) = [⟨it.status, none⟩]) := by
  rw [Iteration.sent_contribution]
  rcases it with ⟨status, _ | e, auth⟩
  · cases hv : status.isComplete <;> simp [hv, MonitorResult.Terminal]
  have hv : status.isComplete = false := by
    cases hv : status.isComplete
    · rfl
    · cases hcomp hv
  by_cases hu : e.is .unauthorized
  · rcases auth with _ | ⟨tok, _ | ae⟩ <;> simp [hu, hv, MonitorResult.Terminal]
    exact hauth tok ae rfl
  · simp [hu, hv, herr e rfl, MonitorResult.Terminal]

section Pass

variable (lib : Lib) (url : String) (checkPeriod : Duration) (c : Client) (t : Tick)

theorem monitorStep_effects :
    (monitorStep lib url checkPeriod c t).1 =
      (monitorIteration lib url c t).calls ++
        (monitorIteration lib url c t).contribution checkPeriod := by
  simp only [monitorStep, monitorIteration, Iteration.calls, Iteration.contribution]
  cases (c.jobStatus lib url t.status).err with
  | none => simp [sleepUnlessComplete]
  | some e =>
      by_cases hu : e.is .unauthorized <;> cases (c.authenticate lib t.auth).err <;>
        simp [hu, sleepUnlessComplete]

theorem monitorStep_status :
    (monitorStep lib url checkPeriod c t).2.2 = (monitorIteration lib url c t).status := by
  simp only [monitorStep, monitorIteration]
  generalize c.jobStatus lib url t.status = o
  obtain ⟨v, err, -, -⟩ := o
  cases err with
  | none => rfl
  | some e => by_cases hu : e.is .unauthorized <;> simp [hu]

theorem monitorIteration_wellFormed : (monitorIteration lib url c t).WellFormed := by
  have ha : ∀ e, (c.authenticate lib t.auth).err = some e → e.is .unauthorized = false :=
    fun _ h => authenticate_err_is lib c t.auth h _
  simp only [monitorIteration, Iteration.WellFormed]
  generalize c.jobStatus lib url t.status = o
  generalize c.authenticate lib t.auth = a at ha
  obtain ⟨v, err, -, -⟩ := o
  cases err with
  | none => simp
  | some e =>
      by_cases hu : e.is .unauthorized
      · simp only [hu, Option.any_some, if_true, Option.isSome_some, true_iff]
        exact ⟨⟨e, rfl, hu⟩, fun _ ae h => ha ae (congrArg Prod.snd (Option.some.inj h))⟩
      · simp [hu]

theorem monitorStep_client :
    (monitorStep lib url checkPeriod c t).2.1 = c.runAfter lib (passMethods lib url c t) := by
  have hj := jobStatus_client lib c url t.status
  simp only [monitorStep, passMethods, Client.runAfter, Client.invoke, hj]
  generalize c.jobStatus lib url t.status = o
  obtain ⟨v, err, -, -⟩ := o
  cases err with
  | none => rfl
  | some e => by_cases hu : e.is .unauthorized <;> simp [hu, Client.runAfter, Client.invoke]

theorem monitorIteration_not_timeout :
    (∀ e, (monitorIteration lib url c t).err = some e → e ≠ errorTimeout) ∧
      ∀ tok ae, (monitorIteration lib url c t).auth = some (tok, some ae) → ae ≠ errorTimeout := by
  refine ⟨fun e h hto => ?_, fun tok ae h hto => ?_⟩
  · have := jobStatus_err_is_timeout lib c url t.status h
    simp [hto, errorTimeout] at this
  · simp only [monitorIteration] at h
    split_ifs at h
    simp only [Option.some.injEq, Prod.mk.injEq] at h
    have := authenticate_err_is lib c t.auth h.2 .timeout
    simp [hto, errorTimeout] at this

end Pass

/-- The goroutine's calls on the client are a run of polls of `url` and
re-authentications, and the client it leaves is the one that run leaves. -/
theorem monitorLoop_calls {lib : Lib} {url : String} {checkPeriod : Duration} {deadline : Time}
    {c c' : Client} {js : JobStatus} {ticks : List Tick} {es : List Effect}
    (h : monitorLoop lib url checkPeriod deadline c js ticks = some (es, c')) :
    ∃ ms : List Method, c' = c.runAfter lib ms ∧
      ∀ m ∈ ms, (∃ ex, m = .jobStatus url ex) ∨ ∃ ex, m = .authenticate ex := by
  induction ticks generalizing c js es with
  | nil =>
      rcases monitorLoop_eq_some h with ⟨-, rfl, -⟩ | ⟨_, _, _, ⟨⟩, -⟩
      exact ⟨[], rfl, by simp⟩
  | cons t ts ih =>
      rcases monitorLoop_eq_some h with ⟨-, rfl, -⟩ | ⟨_, _, es', ⟨⟩, -, hrest, -⟩
      · exact ⟨[], rfl, by simp⟩
      obtain ⟨ms, rfl, hms⟩ := ih hrest
      refine ⟨passMethods lib url c t ++ ms, by rw [monitorStep_client, Client.runAfter_append],
        fun m hm => ?_⟩
      rcases List.mem_append.1 hm with hm | hm
      · simp only [passMethods, List.mem_cons] at hm
        rcases hm with rfl | hm
        · exact .inl ⟨_, rfl⟩
        · split_ifs at hm <;> simp at hm
          exact .inr ⟨_, hm⟩
      · exact hms m hm

/-- Every finished run is, pass after pass, the calls made and what
`Iteration.contribution` gives for their results, then the end of the loop. -/
theorem monitorLoop_stream {lib : Lib} {url : String} {checkPeriod : Duration} {deadline : Time}
    {c c' : Client} {js : JobStatus} {ticks : List Tick} {es : List Effect}
    (h : monitorLoop lib url checkPeriod deadline c js ticks = some (es, c')) :
    ∃ its : List Iteration, (∀ it ∈ its, it.WellFormed) ∧
      es = its.flatMap (fun it => it.calls ++ it.contribution checkPeriod) ++
        afterLoop (Iteration.final js its) := by
  induction ticks generalizing c js es with
  | nil =>
      rcases monitorLoop_eq_some h with ⟨rfl, -⟩ | ⟨_, _, _, ⟨⟩, -⟩
      exact ⟨[], by simp, rfl⟩
  | cons t ts ih =>
      rcases monitorLoop_eq_some h with ⟨rfl, -⟩ | ⟨_, _, es', ⟨⟩, -, hrest, rfl⟩
      · exact ⟨[], by simp, rfl⟩
      obtain ⟨its, hwf, rfl⟩ := ih hrest
      refine ⟨monitorIteration lib url c t :: its, ?_, ?_⟩
      · simpa using ⟨monitorIteration_wellFormed lib url c t, hwf⟩
      · simp [monitorStep_effects, monitorStep_status, Iteration.final]

theorem monitorStep_sent (lib : Lib) (url : String) (checkPeriod : Duration) (c : Client)
    (t : Tick) (hdec : ∀ hd e, t.status ≠ .ok ⟨200, hd, .error e⟩) :
    ((monitorStep lib url checkPeriod c t).2.2.isComplete = false ∧
        ∀ r ∈ sent (monitorStep lib url checkPeriod c t).1, ¬ r.Terminal) ∨
      ((monitorStep lib url checkPeriod c t).2.2.isComplete = true ∧
        sent (monitorStep lib url checkPeriod c t).1 =
          [⟨(monitorStep lib url checkPeriod c t).2.2, none⟩]) := by
  rw [monitorStep_effects, monitorStep_status, sent_append, Iteration.sent_calls, List.nil_append]
  obtain ⟨herr, hauth⟩ := monitorIteration_not_timeout lib url c t
  exact Iteration.sent_terminal checkPeriod _ herr hauth fun h =>
    (jobStatus_isComplete lib c url t.status h).resolve_right fun ⟨hd, e, he⟩ => hdec hd e he

/-- From an incomplete job, a finished run whose polls are never answered by an
undecodable 200 body sends exactly one terminal result, last; `ErrorTimeout` only
after a clock reading at or past the deadline. -/
theorem monitorLoop_terminal {lib : Lib} {url : String} {checkPeriod : Duration}
    {deadline : Time} {c c' : Client} {js : JobStatus} {ticks : List Tick} {es : List Effect}
    (h : monitorLoop lib url checkPeriod deadline c js ticks = some (es, c'))
    (hjs : js.isComplete = false) (hdec : ∀ t ∈ ticks, ∀ hd e, t.status ≠ .ok ⟨200, hd, .error e⟩) :
    ∃ pre last, sent es = pre ++ [last] ∧ last.Terminal ∧ (∀ r ∈ pre, ¬ r.Terminal) ∧
      (last.error = some errorTimeout → ∃ t ∈ ticks, t.now.before deadline = false) := by
  induction ticks generalizing c js es with
  | nil =>
      rcases monitorLoop_eq_some h with ⟨-, -, h' | ⟨_, _, ⟨⟩, -⟩⟩ | ⟨_, _, _, ⟨⟩, -⟩
      simp [hjs] at h'
  | cons t ts ih =>
      rcases monitorLoop_eq_some h with ⟨rfl, -, hend⟩ | ⟨_, _, es', ⟨⟩, -, hrest, rfl⟩
      · -- the deadline ends the loop
        rcases hend with h' | ⟨_, _, ⟨⟩, hb⟩
        · simp [hjs] at h'
        exact ⟨[], ⟨{}, some errorTimeout⟩, by simp [hjs], .inr rfl, by simp,
          fun _ => ⟨t, List.mem_cons_self _ _, hb⟩⟩
      rcases monitorStep_sent lib url checkPeriod c t (hdec t (List.mem_cons_self _ _)) with
        ⟨hinc, hpass⟩ | ⟨hcomp, hpass⟩
      · -- an incomplete pass: the rest of the run carries the terminal result
        obtain ⟨pre, last, hsent, hlast, hpre, htime⟩ :=
          ih hrest hinc fun t' ht' => hdec t' (List.mem_cons_of_mem _ ht')
        refine ⟨sent (monitorStep lib url checkPeriod c t).1 ++ pre, last, by simp [hsent], hlast,
          fun r hr => (List.mem_append.1 hr).elim (hpass r) (hpre r), fun he => ?_⟩
        obtain ⟨t', ht', hb⟩ := htime he
        exact ⟨t', List.mem_cons_of_mem _ ht', hb⟩
      · -- a completing pass: the loop ends with no further result
        rcases monitorLoop_eq_some hrest with ⟨rfl, -, -⟩ | ⟨_, _, _, -, hinc, -⟩
        · exact ⟨[], ⟨(monitorStep lib url checkPeriod c t).2.2, none⟩, by simp [hpass, hcomp],
            .inl ⟨rfl, hcomp⟩, by simp, fun h => by cases h⟩
        · simp [hcomp] at hinc

/-- Unless a poll is answered 200 with a body that does not decode, every finished run
of `MonitorJobStatus` sends exactly one terminal result, as its last: the completed
status with a `nil` error, or `ErrorTimeout`, and the latter only once a clock reading
has reached the deadline. -/
theorem monitorJobStatus_terminal (lib : Lib) (c : Client) (url : String)
    (checkPeriod timeout : Duration) (start : Time) (ticks : List Tick) {es : List Effect}
    {c' : Client} (h : c.monitorJobStatus lib url checkPeriod timeout start ticks = some (es, c'))
    (hdec : ∀ t ∈ ticks, ∀ hd e, t.status ≠ .ok ⟨200, hd, .error e⟩) :
    ∃ pre last, sent es = pre ++ [last] ∧ last.Terminal ∧ (∀ r ∈ pre, ¬ r.Terminal) ∧
      (last.error = some errorTimeout → ∃ t ∈ ticks, t.now.before (start.add timeout) = false) :=
  monitorLoop_terminal h rfl hdec

/-- The first poll is answered 200 with a body that does not decode: `JobStatus`
returns that error with `IsComplete = true`, the goroutine sends the error, skips the
sleep, leaves the loop and closes the channel with no completed status and no
`ErrorTimeout` sent. -/
theorem monitorJobStatus_undecodable_body :
    sandboxClient.monitorJobStatus Lib.nanoInstants "https://sandbox.bcda.cms.gov/api/v2/jobs/1"
        10 100 ⟨0⟩ [⟨⟨0⟩, .ok ⟨200, [], .error "unexpected EOF"⟩, .error "unused"⟩] =
      some ([.poll { isComplete := true } (some (.plain "unexpected EOF")),
        .send ⟨{}, some (.plain "unexpected EOF")⟩, .close], sandboxClient) := by
  decide

/-! ## What the channel carries

The error of a sent result is the poll's, which is not `ErrorUnauthorized`, the
re-authentication's, which wraps no sentinel, or `ErrorTimeout`; the poll's sentinels
are those of `JobStatus` (`jobStatus_errorContract`). -/

/-- What a consumer of the channel can receive: a status with a `nil` error, or an error
next to the zero `JobStatus` that `Is` no sentinel but `ErrorUnableToParseProgress`,
`ErrorUnexpectedNumberOfXProgress`, `ErrorUnexpectedStatusCode` and `ErrorTimeout`. -/
def MonitorResult.Receivable (r : MonitorResult) : Prop :=
  r.error = none ∨ r.status = {} ∧ ∀ e, r.error = some e → ∀ sn, e.is sn = true →
    sn ∈ [.unableToParseProgress, .unexpectedNumberOfXProgress, .unexpectedStatusCode, .timeout]

theorem monitorStep_receivable (lib : Lib) (url : String) (checkPeriod : Duration) (c : Client)
    (t : Tick) : ∀ r ∈ sent (monitorStep lib url checkPeriod c t).1, r.Receivable := by
  have hpoll : ∀ e, (c.jobStatus lib url t.status).err = some e → ∀ sn, e.is sn = true →
      sn ∈ Method.sentinels (.jobStatus url t.status) :=
    (jobStatus_errorContract lib c url t.status).sentinels
  have hauth : ∀ e, (c.authenticate lib t.auth).err = some e → ∀ sn, e.is sn = false :=
    fun _ h => authenticate_err_is lib c t.auth h
  rw [monitorStep_effects, sent_append, Iteration.sent_calls, List.nil_append,
    Iteration.sent_contribution]
  simp only [monitorIteration]
  generalize (c.jobStatus lib url t.status).err = err at hpoll
  generalize (c.authenticate lib t.auth).err = aerr at hauth
  intro r hr
  rcases err with _ | e
  · simp at hr; exact .inl (by rw [hr])
  by_cases hu : e.is .unauthorized
  · -- the re-authentication's error, if any
    cases aerr with
    | none => simp [hu] at hr
    | some ae =>
        simp [hu] at hr
        subst hr
        exact .inr ⟨rfl, fun e he sn hsn => by simp [hauth e he sn] at hsn⟩
  · -- the poll's own error
    simp [hu] at hr
    subst hr
    refine .inr ⟨rfl, fun e' he sn hsn => ?_⟩
    obtain rfl : e = e' := Option.some.inj he
    rcases List.mem_cons.1 (hpoll e rfl sn hsn) with rfl | h
    · simp [hsn] at hu
    · exact List.mem_append_left [.timeout] h

theorem afterLoop_receivable (jobStatus : JobStatus) : ∀ r ∈ sent (afterLoop jobStatus), r.Receivable := by
  rw [sent_afterLoop]
  split_ifs
  · exact fun _ h => by cases h
  · refine fun r hr => List.mem_singleton.1 hr ▸ .inr ⟨rfl, fun e he sn hsn => ?_⟩
    obtain rfl := Option.some.inj he
    obtain rfl : sn = .timeout := by simpa [errorTimeout, eq_comm] using hsn
    decide

theorem monitorLoop_receivable {lib : Lib} {url : String} {checkPeriod : Duration}
    {deadline : Time} {c c' : Client} {js : JobStatus} {ticks : List Tick} {es : List Effect}
    (h : monitorLoop lib url checkPeriod deadline c js ticks = some (es, c')) :
    ∀ r ∈ sent es, r.Receivable := by
  induction ticks generalizing c js es with
  | nil =>
      rcases monitorLoop_eq_some h with ⟨rfl, -⟩ | ⟨_, _, _, ⟨⟩, -⟩
      exact afterLoop_receivable js
  | cons t ts ih =>
      rcases monitorLoop_eq_some h with ⟨rfl, -⟩ | ⟨_, _, es', ⟨⟩, -, hrest, rfl⟩
      · exact afterLoop_receivable js
      rw [sent_append]
      exact fun r hr => (List.mem_append.1 hr).elim (monitorStep_receivable lib url checkPeriod c t r)
        (ih hrest r)

/-- Whatever the server answers, every result a finished run of `MonitorJobStatus` puts
on the channel is a status with a `nil` error, or an error with the zero status that
`Is` only `ErrorUnableToParseProgress`, `ErrorUnexpectedNumberOfXProgress`,
`ErrorUnexpectedStatusCode` or `ErrorTimeout`: never `ErrorUnauthorized`,
`ErrorRetryableHTTPStatus`, `ErrorGreaterThanOneContentLocation` or `ErrorUnimplemented`. -/
theorem monitorJobStatus_receivable (lib : Lib) (c : Client) (url : String)
    (checkPeriod timeout : Duration) (start : Time) (ticks : List Tick) {es : List Effect}
    {c' : Client} (h : c.monitorJobStatus lib url checkPeriod timeout start ticks = some (es, c')) :
    ∀ r ∈ sent es, r.Receivable :=
  monitorLoop_receivable h

theorem monitorJobStatus_receivable_server_error :
    sandboxClient.monitorJobStatus Lib.nanoInstants "https://sandbox.bcda.cms.gov/api/v2/jobs/1"
        10 100 ⟨0⟩ [⟨⟨0⟩, .ok ⟨500, [], .error "unused"⟩, .error "unused"⟩,
          ⟨⟨150⟩, .error "unused", .error "unused"⟩] =
      some ([.poll {} (some (unexpectedStatusError 500)), .send ⟨{}, some (unexpectedStatusError 500)⟩,
        .sleep 10, .send ⟨{}, some errorTimeout⟩, .close], sandboxClient) ∧
      ∀ r ∈ sent [.poll {} (some (unexpectedStatusError 500)),
          .send ⟨{}, some (unexpectedStatusError 500)⟩, .sleep 10,
          .send ⟨{}, some errorTimeout⟩, .close], r.Receivable :=
  have hrun : sandboxClient.monitorJobStatus Lib.nanoInstants
      "https://sandbox.bcda.cms.gov/api/v2/jobs/1" 10 100 ⟨0⟩
      [⟨⟨0⟩, .ok ⟨500, [], .error "unused"⟩, .error "unused"⟩,
        ⟨⟨150⟩, .error "unused", .error "unused"⟩] =
      some ([.poll {} (some (unexpectedStatusError 500)), .send ⟨{}, some (unexpectedStatusError 500)⟩,
        .sleep 10, .send ⟨{}, some errorTimeout⟩, .close], sandboxClient) := rfl
  ⟨hrun, monitorJobStatus_receivable _ _ _ _ _ _ _ hrun⟩

/-! ## The token the goroutine leaves

`MonitorJobStatus` discards the token `Authenticate` returns, but `Authenticate` stores
it in the client the caller shares with the goroutine. -/

/-- The token of the last re-authentication in `es` that returned a `nil` error, or
`initial` when there is none. -/
def lastReauthToken (initial : String) : List Effect → String
  | [] => initial
  | .reauth tok none :: es => lastReauthToken tok es
  | _ :: es => lastReauthToken initial es

theorem lastReauthToken_append (initial : String) (es es' : List Effect) :
    lastReauthToken initial (es ++ es') = lastReauthToken (lastReauthToken initial es) es' := by
  induction es generalizing initial with
  | nil => rfl
  | cons e es ih =>
      rcases e with _ | ⟨tok, _ | _⟩ | _ | _ | _ <;> exact ih _

@[simp] theorem lastReauthToken_sleepUnlessComplete (initial : String) (checkPeriod : Duration)
    (st : JobStatus) : lastReauthToken initial (sleepUnlessComplete checkPeriod st) = initial := by
  unfold sleepUnlessComplete; split <;> rfl

theorem lastReauthToken_afterLoop (initial : String) (js : JobStatus) :
    lastReauthToken initial (afterLoop js) = initial := by
  unfold afterLoop; split <;> rfl

theorem monitorStep_token (lib : Lib) (url : String) (checkPeriod : Duration) (c : Client) (t : Tick) :
    (monitorStep lib url checkPeriod c t).2.1.token =
      lastReauthToken c.token (monitorStep lib url checkPeriod c t).1 := by
  have ha := authenticate_spec lib c t.auth
  dsimp only at ha
  simp only [monitorStep]
  generalize c.jobStatus lib url t.status = o
  generalize c.authenticate lib t.auth = a at ha ⊢
  obtain ⟨v, err, -, -⟩ := o
  obtain ⟨tok, aerr, c', _⟩ := a
  dsimp only at ha ⊢
  cases err with
  | none => simp [lastReauthToken]
  | some e =>
      by_cases hu : e.is .unauthorized
      · rcases ha with ⟨h, -, rfl⟩ | ⟨rfl, rfl⟩
        · obtain ⟨ae, rfl⟩ := Option.isSome_iff_exists.1 h
          simp [hu, lastReauthToken]
        · simp [hu, lastReauthToken]
      · simp [hu, lastReauthToken]

theorem monitorLoop_token {lib : Lib} {url : String} {checkPeriod : Duration}
    {deadline : Time} {c c' : Client} {js : JobStatus} {ticks : List Tick} {es : List Effect}
    (h : monitorLoop lib url checkPeriod deadline c js ticks = some (es, c')) :
    c'.token = lastReauthToken c.token es := by
  induction ticks generalizing c js es with
  | nil =>
      rcases monitorLoop_eq_some h with ⟨rfl, rfl, -⟩ | ⟨_, _, _, ⟨⟩, -⟩
      exact (lastReauthToken_afterLoop _ _).symm
  | cons t ts ih =>
      rcases monitorLoop_eq_some h with ⟨rfl, rfl, -⟩ | ⟨_, _, es', ⟨⟩, -, hrest, rfl⟩
      · exact (lastReauthToken_afterLoop _ _).symm
      rw [ih hrest, lastReauthToken_append, monitorStep_token]

/-- Once the goroutine has finished, the client it shares with the caller holds the
token of its last re-authentication that returned a `nil` error, or, when there was
none, the token it started with. -/
theorem monitorJobStatus_token (lib : Lib) (c : Client) (url : String)
    (checkPeriod timeout : Duration) (start : Time) (ticks : List Tick) {es : List Effect}
    {c' : Client} (h : c.monitorJobStatus lib url checkPeriod timeout start ticks = some (es, c')) :
    c'.token = lastReauthToken c.token es :=
  monitorLoop_token h

theorem monitorJobStatus_token_reauth :
    sandboxClient.monitorJobStatus Lib.nanoInstants "https://sandbox.bcda.cms.gov/api/v2/jobs/1"
        10 100 ⟨0⟩ [⟨⟨0⟩, .ok ⟨401, [], .error "unused"⟩, .ok ⟨200, [], .ok ⟨"t2"⟩⟩⟩,
          ⟨⟨150⟩, .error "unused", .error "unused"⟩] =
      some ([.poll {} (some errorUnauthorized), .reauth "t2" none, .send ⟨{}, some errorTimeout⟩,
        .close], { sandboxClient with token := "t2" }) ∧
      ({ sandboxClient with token := "t2" } : Client).token =
        lastReauthToken sandboxClient.token [.poll {} (some errorUnauthorized), .reauth "t2" none,
          .send ⟨{}, some errorTimeout⟩, .close] :=
  have hrun : sandboxClient.monitorJobStatus Lib.nanoInstants
      "https://sandbox.bcda.cms.gov/api/v2/jobs/1" 10 100 ⟨0⟩
      [⟨⟨0⟩, .ok ⟨401, [], .error "unused"⟩, .ok ⟨200, [], .ok ⟨"t2"⟩⟩⟩,
        ⟨⟨150⟩, .error "unused", .error "unused"⟩] =
      some ([.poll {} (some errorUnauthorized), .reauth "t2" none, .send ⟨{}, some errorTimeout⟩,
        .close], { sandboxClient with token := "t2" }) := rfl
  ⟨hrun, monitorJobStatus_token _ _ _ _ _ _ _ hrun⟩

/-! ## Re-authentication does not wait

After `ErrorUnauthorized` the loop body ends with `continue`, which skips
`time.Sleep(checkPeriod)`. -/

theorem monitorStep_no_sleep (lib : Lib) (url : String) (checkPeriod : Duration) (c : Client)
    (t : Tick) (hu : (c.jobStatus lib url t.status).err.any (·.is .unauthorized) = true) (d : Duration) :
    Effect.sleep d ∉ (monitorStep lib url checkPeriod c t).1 := by
  simp only [monitorStep]
  generalize c.jobStatus lib url t.status = o at hu ⊢
  obtain ⟨v, _ | e, _, _⟩ := o
  · cases hu
  simp only [Option.any_some] at hu
  simp only [hu, if_true]
  split <;> simp

theorem afterLoop_no_sleep (js : JobStatus) (d : Duration) : Effect.sleep d ∉ afterLoop js := by
  unfold afterLoop; split <;> simp

theorem monitorLoop_no_sleep {lib : Lib} {url : String} {checkPeriod : Duration}
    {deadline : Time} {c c' : Client} {js : JobStatus} {ticks : List Tick} {es : List Effect}
    (hurl : lib.urlError url = none)
    (h401 : ∀ t ∈ ticks, ∃ resp, t.status = .ok resp ∧ resp.statusCode = 401)
    (h : monitorLoop lib url checkPeriod deadline c js ticks = some (es, c')) (d : Duration) :
    Effect.sleep d ∉ es := by
  induction ticks generalizing c js es with
  | nil =>
      rcases monitorLoop_eq_some h with ⟨rfl, -⟩ | ⟨_, _, _, ⟨⟩, -⟩
      exact afterLoop_no_sleep js d
  | cons t ts ih =>
      rcases monitorLoop_eq_some h with ⟨rfl, -⟩ | ⟨_, _, es', ⟨⟩, -, hrest, rfl⟩
      · exact afterLoop_no_sleep js d
      have hu := (jobStatus_err_is_unauthorized lib c url t.status).2
        (.inr ⟨hurl, h401 t (List.mem_cons_self ..)⟩)
      rw [List.mem_append, not_or]
      exact ⟨monitorStep_no_sleep lib url checkPeriod c t hu d,
        ih (fun t' ht' => h401 t' (List.mem_cons_of_mem _ ht')) hrest⟩

/-- Against a job URL that parses and a server that answers every poll 401, the
goroutine never sleeps, whatever the re-authentications return. -/
theorem monitorJobStatus_unauthorized_never_sleeps (lib : Lib) (c : Client) (url : String)
    (checkPeriod timeout : Duration) (start : Time) (ticks : List Tick) {es : List Effect}
    {c' : Client} (hurl : lib.urlError url = none)
    (h401 : ∀ t ∈ ticks, ∃ resp, t.status = .ok resp ∧ resp.statusCode = 401)
    (h : c.monitorJobStatus lib url checkPeriod timeout start ticks = some (es, c')) :
    ∀ d, Effect.sleep d ∉ es :=
  monitorLoop_no_sleep hurl h401 h

theorem monitorJobStatus_unauthorized_never_sleeps_twice :
    Lib.nanoInstants.urlError "https://sandbox.bcda.cms.gov/api/v2/jobs/1" = none ∧
      (∀ t ∈ [(⟨⟨0⟩, .ok ⟨401, [], .error "unused"⟩, .ok ⟨200, [], .ok ⟨"t2"⟩⟩⟩ : Tick),
          ⟨⟨1⟩, .ok ⟨401, [], .error "unused"⟩, .ok ⟨200, [], .ok ⟨"t3"⟩⟩⟩,
          ⟨⟨150⟩, .ok ⟨401, [], .error "unused"⟩, .error "unused"⟩],
        ∃ resp, t.status = .ok resp ∧ resp.statusCode = 401) ∧
      sandboxClient.monitorJobStatus Lib.nanoInstants "https://sandbox.bcda.cms.gov/api/v2/jobs/1"
          10 100 ⟨0⟩ [⟨⟨0⟩, .ok ⟨401, [], .error "unused"⟩, .ok ⟨200, [], .ok ⟨"t2"⟩⟩⟩,
            ⟨⟨1⟩, .ok ⟨401, [], .error "unused"⟩, .ok ⟨200, [], .ok ⟨"t3"⟩⟩⟩,
            ⟨⟨150⟩, .ok ⟨401, [], .error "unused"⟩, .error "unused"⟩] =
        some ([.poll {} (some errorUnauthorized), .reauth "t2" none,
          .poll {} (some errorUnauthorized), .reauth "t3" none, .send ⟨{}, some errorTimeout⟩,
          .close], { sandboxClient with token := "t3" }) ∧
      ∀ d, Effect.sleep d ∉ [.poll {} (some errorUnauthorized), .reauth "t2" none,
        .poll {} (some errorUnauthorized), .reauth "t3" none, .send ⟨{}, some errorTimeout⟩,
        .close] :=
  have h401 : ∀ t ∈ [(⟨⟨0⟩, .ok ⟨401, [], .error "unused"⟩, .ok ⟨200, [], .ok ⟨"t2"⟩⟩⟩ : Tick),
      ⟨⟨1⟩, .ok ⟨401, [], .error "unused"⟩, .ok ⟨200, [], .ok ⟨"t3"⟩⟩⟩,
      ⟨⟨150⟩, .ok ⟨401, [], .error "unused"⟩, .error "unused"⟩],
      ∃ resp, t.status = .ok resp ∧ resp.statusCode = 401 := by
    simp only [List.mem_cons, List.mem_singleton, List.not_mem_nil, or_false]
    rintro t (rfl | rfl | rfl) <;> exact ⟨_, rfl, rfl⟩
  have hrun : sandboxClient.monitorJobStatus Lib.nanoInstants
      "https://sandbox.bcda.cms.gov/api/v2/jobs/1" 10 100 ⟨0⟩
      [⟨⟨0⟩, .ok ⟨401, [], .error "unused"⟩, .ok ⟨200, [], .ok ⟨"t2"⟩⟩⟩,
        ⟨⟨1⟩, .ok ⟨401, [], .error "unused"⟩, .ok ⟨200, [], .ok ⟨"t3"⟩⟩⟩,
        ⟨⟨150⟩, .ok ⟨401, [], .error "unused"⟩, .error "unused"⟩] =
      some ([.poll {} (some errorUnauthorized), .reauth "t2" none,
        .poll {} (some errorUnauthorized), .reauth "t3" none, .send ⟨{}, some errorTimeout⟩,
        .close], { sandboxClient with token := "t3" }) := rfl
  ⟨rfl, h401, hrun, monitorJobStatus_unauthorized_never_sleeps _ _ _ _ _ _ _ rfl h401 hrun⟩

/-! ## Finished runs -/

/-- A finished run reads nothing past the ticks it used: more clock readings and answers
afterwards change nothing. -/
theorem monitorLoop_append_of_eq_some {lib : Lib} {url : String} {checkPeriod : Duration}
    {deadline : Time} {c : Client} {js : JobStatus} {ticks : List Tick} {r : List Effect × Client}
    (h : monitorLoop lib url checkPeriod deadline c js ticks = some r) (more : List Tick) :
    monitorLoop lib url checkPeriod deadline c js (ticks ++ more) = some r := by
  induction ticks generalizing c js r with
  | nil =>
      have hc : js.isComplete = true := by
        by_contra hc; simp [monitorLoop, hc] at h
      rw [monitorLoop_of_isComplete c _ hc] at h ⊢
      exact h
  | cons t ts ih =>
      cases hc : js.isComplete
      · cases hb : t.now.before deadline
        · rw [List.cons_append, monitorLoop_of_deadline c _ hb]
          rwa [monitorLoop_of_deadline c _ hb] at h
        · rw [monitorLoop_of_running c ts hc hb] at h
          obtain ⟨r', hr', rfl⟩ := Option.map_eq_some'.1 h
          rw [List.cons_append, monitorLoop_of_running c _ hc hb, ih hr']
          rfl
      · rw [monitorLoop_of_isComplete c _ hc] at h ⊢
        exact h

/-! ## The channel

`out := make(chan *MonitorResult, 100)`: a send waits while 100 results are unread.
A consumer that takes `reads` results and then stops reading lets the goroutine make
`reads + 100` sends; the next one blocks for good, and nothing after it happens: no
further poll, no `ErrorTimeout`, no `close(out)`. A consumer that keeps reading is one
whose `reads` is at least the number of results the run sends. -/

/-- The buffer of `out`. -/
def resultBuffer : Nat := 100

/-- The effects the goroutine carries out against a consumer that takes `reads` results
and stops, `n` results having been sent: all of them up to the first send that finds
the buffer full. -/
def sendsThrough (reads : Nat) : Nat → List Effect → List Effect
  | _, [] => []
  | n, e :: es =>
      match e.sent? with
      | some _ => if n < reads + resultBuffer then e :: sendsThrough reads (n + 1) es else []
      | none => e :: sendsThrough reads n es

theorem sent_cons (e : Effect) (es : List Effect) : sent (e :: es) = e.sent?.toList ++ sent es := by
  cases h : e.sent? <;> simp [sent, h]

section Channel

variable (reads : Nat) {n : Nat} {e : Effect} (es : List Effect)

theorem sendsThrough_cons_of_none (he : e.sent? = none) :
    sendsThrough reads n (e :: es) = e :: sendsThrough reads n es := by
  simp [sendsThrough, he]

theorem sendsThrough_cons_of_some {r : MonitorResult} (he : e.sent? = some r) :
    sendsThrough reads n (e :: es) =
      if n < reads + resultBuffer then e :: sendsThrough reads (n + 1) es else [] := by
  simp [sendsThrough, he]

theorem length_sent_sendsThrough (hn : n ≤ reads + resultBuffer) :
    (sent (sendsThrough reads n es)).length = min (sent es).length (reads + resultBuffer - n) := by
  induction es generalizing n with
  | nil => simp [sendsThrough, sent]
  | cons e es ih =>
      cases he : e.sent? with
      | none =>
          rw [sendsThrough_cons_of_none _ _ he]
          simp only [sent_cons, he, Option.toList_none, List.nil_append, ih hn]
      | some r =>
          rw [sendsThrough_cons_of_some _ _ he]
          split_ifs with hlt
          · simp only [sent_cons, he, Option.toList_some, List.singleton_append, List.length_cons,
              ih (Nat.succ_le_of_lt hlt)]
            omega
          · simp [sent_cons, he, sent]; omega

/-- A run that closes the channel last closes it against a consumer exactly when the
consumer leaves at most 100 of its results unread. -/
theorem close_mem_sendsThrough {pre : List Effect} (hpre : Effect.close ∉ pre)
    (hn : n ≤ reads + resultBuffer) :
    Effect.close ∈ sendsThrough reads n (pre ++ [.close]) ↔
      n + (sent pre).length ≤ reads + resultBuffer := by
  induction pre generalizing n with
  | nil => simp [sendsThrough, Effect.sent?, sent, hn]
  | cons e pre ih =>
      have hne : Effect.close ≠ e := fun h => hpre (h ▸ List.mem_cons_self _ _)
      have hpre' : Effect.close ∉ pre := fun h => hpre (List.mem_cons_of_mem _ h)
      rw [List.cons_append, sent_cons]
      cases he : e.sent? with
      | none =>
          rw [sendsThrough_cons_of_none _ _ he, List.mem_cons, ih hpre' hn]
          simp [hne]
      | some r =>
          rw [sendsThrough_cons_of_some _ _ he]
          split_ifs with hlt
          · rw [List.mem_cons, ih hpre' (Nat.succ_le_of_lt hlt)]
            simp only [hne, false_or, Option.toList_some, List.singleton_append, List.length_cons]
            omega
          · simp only [List.not_mem_nil, false_iff, Option.toList_some, List.singleton_append,
              List.length_cons]
            omega

end Channel

theorem Iteration.close_not_mem (checkPeriod : Duration) (it : Iteration) :
    Effect.close ∉ it.calls ++ it.contribution checkPeriod := by
  rcases it with ⟨status, _ | e, _ | ⟨tok, _ | ae⟩⟩ <;>
    simp [Iteration.calls, Iteration.contribution, apply_ite (Effect.close ∈ ·)]

theorem monitorLoop_close {lib : Lib} {url : String} {checkPeriod : Duration} {deadline : Time}
    {c c' : Client} {js : JobStatus} {ticks : List Tick} {es : List Effect}
    (h : monitorLoop lib url checkPeriod deadline c js ticks = some (es, c')) :
    ∃ pre, es = pre ++ [.close] ∧ Effect.close ∉ pre := by
  obtain ⟨its, -, rfl⟩ := monitorLoop_stream h
  refine ⟨_ ++ if (Iteration.final js its).isComplete then [] else [.send ⟨{}, some errorTimeout⟩],
    by rw [afterLoop, List.append_assoc], ?_⟩
  rw [List.mem_append, not_or]
  refine ⟨fun hc => ?_, by split <;> simp⟩
  obtain ⟨it, -, hit⟩ := List.mem_flatMap.1 hc
  exact Iteration.close_not_mem checkPeriod it hit

/-- Whatever the server answers, the loop of `MonitorJobStatus` ends once a loop test
reads the clock at or past the deadline, and the goroutine reads neither the clock nor
the network again. Against a consumer that takes `reads` results and stops, it makes
`reads + 100` sends at most, and closes the channel exactly when the run sends no more
than that; otherwise it blocks for good on the next send. -/
theorem monitorJobStatus_finishes (lib : Lib) (c : Client) (url : String)
    (checkPeriod timeout : Duration) (start : Time) (ticks : List Tick)
    (h : ∃ t ∈ ticks, t.now.before (start.add timeout) = false) :
    ∃ es c', c.monitorJobStatus lib url checkPeriod timeout start ticks = some (es, c') ∧
      (∀ more, c.monitorJobStatus lib url checkPeriod timeout start (ticks ++ more) = some (es, c')) ∧
      ∀ reads, (sent (sendsThrough reads 0 es)).length = min (sent es).length (reads + resultBuffer) ∧
        (Effect.close ∈ sendsThrough reads 0 es ↔ (sent es).length ≤ reads + resultBuffer) := by
  obtain ⟨⟨es, c'⟩, hr⟩ := monitorLoop_finishes lib url checkPeriod (start.add timeout) c {} ticks h
  obtain ⟨pre, rfl, hpre⟩ := monitorLoop_close hr
  refine ⟨_, c', hr, monitorLoop_append_of_eq_some hr, fun reads => ⟨?_, ?_⟩⟩
  · exact length_sent_sendsThrough reads _ (Nat.zero_le _)
  · rw [close_mem_sendsThrough reads hpre (Nat.zero_le _), sent_append, Nat.zero_add]
    simp [sent, Effect.sent?]

theorem monitorJobStatus_finishes_at_deadline :
    (∃ t ∈ [(⟨⟨200⟩, .error "unused", .error "unused"⟩ : Tick)], t.now.before (Time.add ⟨0⟩ 100) = false) ∧
      ∃ es c', sandboxClient.monitorJobStatus Lib.nanoInstants
          "https://sandbox.bcda.cms.gov/api/v2/jobs/1" 10 100 ⟨0⟩
          [⟨⟨200⟩, .error "unused", .error "unused"⟩] = some (es, c') ∧
        (∀ more, sandboxClient.monitorJobStatus Lib.nanoInstants
          "https://sandbox.bcda.cms.gov/api/v2/jobs/1" 10 100 ⟨0⟩
          ([⟨⟨200⟩, .error "unused", .error "unused"⟩] ++ more) = some (es, c')) ∧
        ∀ reads, (sent (sendsThrough reads 0 es)).length = min (sent es).length (reads + resultBuffer) ∧
          (Effect.close ∈ sendsThrough reads 0 es ↔ (sent es).length ≤ reads + resultBuffer) :=
  have h : ∃ t ∈ [(⟨⟨200⟩, .error "unused", .error "unused"⟩ : Tick)],
      t.now.before (Time.add ⟨0⟩ 100) = false := ⟨_, List.mem_singleton_self _, by decide⟩
  ⟨h, monitorJobStatus_finishes _ _ _ _ _ _ _ h⟩

theorem monitorJobStatus_terminal_two_polls :
    (sandboxClient.monitorJobStatus Lib.nanoInstants "https://sandbox.bcda.cms.gov/api/v2/jobs/1"
        10 100 ⟨0⟩ [⟨⟨0⟩, .ok ⟨202, [("X-Progress", "(50%)")], .error "unused"⟩, .error "unused"⟩,
          ⟨⟨150⟩, .error "unused", .error "unused"⟩] =
      some ([.poll { percentComplete := 50 } none, .send ⟨{ percentComplete := 50 }, none⟩,
        .sleep 10, .send ⟨{}, some errorTimeout⟩, .close], sandboxClient)) ∧
      (∀ t ∈ [(⟨⟨0⟩, .ok ⟨202, [("X-Progress", "(50%)")], .error "unused"⟩, .error "unused"⟩ : Tick),
          ⟨⟨150⟩, .error "unused", .error "unused"⟩], ∀ hd e, t.status ≠ .ok ⟨200, hd, .error e⟩) ∧
      ∃ pre last, sent [.poll { percentComplete := 50 } none, .send ⟨{ percentComplete := 50 }, none⟩,
          .sleep 10, .send ⟨{}, some errorTimeout⟩, .close] = pre ++ [last] ∧ last.Terminal ∧
        (∀ r ∈ pre, ¬ r.Terminal) ∧
        (last.error = some errorTimeout → ∃ t ∈ [(⟨⟨0⟩, .ok ⟨202, [("X-Progress", "(50%)")],
            .error "unused"⟩, .error "unused"⟩ : Tick), ⟨⟨150⟩, .error "unused", .error "unused"⟩],
          t.now.before (Time.add ⟨0⟩ 100) = false) :=
  have hrun : sandboxClient.monitorJobStatus Lib.nanoInstants
      "https://sandbox.bcda.cms.gov/api/v2/jobs/1" 10 100 ⟨0⟩
      [⟨⟨0⟩, .ok ⟨202, [("X-Progress", "(50%)")], .error "unused"⟩, .error "unused"⟩,
        ⟨⟨150⟩, .error "unused", .error "unused"⟩] =
      some ([.poll { percentComplete := 50 } none, .send ⟨{ percentComplete := 50 }, none⟩,
        .sleep 10, .send ⟨{}, some errorTimeout⟩, .close], sandboxClient) := rfl
  have hdec : ∀ t ∈ [(⟨⟨0⟩, .ok ⟨202, [("X-Progress", "(50%)")], .error "unused"⟩, .error "unused"⟩ : Tick),
      ⟨⟨150⟩, .error "unused", .error "unused"⟩], ∀ hd e, t.status ≠ .ok ⟨200, hd, .error e⟩ := by
    simp
  ⟨hrun, hdec, monitorJobStatus_terminal _ _ _ _ _ _ _ hrun hdec⟩

/-! ## Runs of a caller's operations

A caller uses one client for its own calls and for `MonitorJobStatus`, whose goroutine
calls `JobStatus` and `Authenticate` on it. In a race-free run the goroutine has finished
before the caller's next call, and the calls that reach the client form one run of
methods, the goroutine's contributing its polls and re-authentications
(`monitorLoop_calls`); the token discipline of `Client.run` then covers the whole run. -/

/-- An operation of a caller on its client. -/
inductive Operation
  | call (m : Method)
  /-- `MonitorJobStatus`, its goroutine run to its end before the next operation. -/
  | monitor (url : String) (checkPeriod timeout : Duration) (start : Time) (ticks : List Tick)

/-- The client after the operations `ops`; `none` when a goroutine outlives its ticks. -/
def Client.afterOps (lib : Lib) : Client → List Operation → Option Client
  | c, [] => some c
  | c, .call m :: ops => (c.invoke lib m).after.afterOps lib ops
  | c, .monitor url checkPeriod timeout start ticks :: ops =>
      (c.monitorJobStatus lib url checkPeriod timeout start ticks).bind fun r => r.2.afterOps lib ops

/-- The calls `ms` are ones operation `op` makes: the method itself, or polls of the job
URL and re-authentications. -/
def Operation.Makes : Operation → List Method → Prop
  | .call m, ms => ms = [m]
  | .monitor url .., ms => ∀ m ∈ ms, (∃ ex, m = .jobStatus url ex) ∨ ∃ ex, m = .authenticate ex

theorem afterOps_eq_runAfter {lib : Lib} {c c' : Client} {ops : List Operation}
    (h : c.afterOps lib ops = some c') :
    ∃ mss : List (List Method), List.Forall₂ Operation.Makes ops mss ∧ c' = c.runAfter lib mss.flatten := by
  induction ops generalizing c with
  | nil => cases h; exact ⟨[], .nil, rfl⟩
  | cons op ops ih =>
      cases op with
      | call m =>
          obtain ⟨mss, hmk, rfl⟩ := ih h
          exact ⟨[m] :: mss, .cons rfl hmk, rfl⟩
      | monitor url checkPeriod timeout start ticks =>
          obtain ⟨⟨es, c''⟩, hrun, hrest⟩ := Option.bind_eq_some.1 h
          obtain ⟨ms, rfl, hms⟩ := monitorLoop_calls hrun
          obtain ⟨mss, hmk, rfl⟩ := ih hrest
          exact ⟨ms :: mss, .cons hms hmk, (Client.runAfter_append ..).symm⟩

end BulkFhir
