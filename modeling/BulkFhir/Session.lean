import BulkFhir.JobStatus

/-! # Runs of client calls

A `Client` is shared by the caller and by the goroutine of `MonitorJobStatus`,
and nothing guards its token: `Authenticate` writes `c.token` while the other
goroutine may read it, and `JobStatus` reads it twice. The runs modelled here are
the race-free ones, where the calls on the client happen one after another; what
reaches the client is then a sequence of calls of its four methods, each with the
network's answer, and `Client.run` executes it. The stored token is always the one
returned by the last `Authenticate` that returned a `nil` error, and a call that
needs a token never reaches the network without one. That token may be empty:
`Authenticate` never reads the status code.
-/

namespace BulkFhir

/-- A call of a `Client` method, with what `httpClient.Do` returns to it. -/
inductive Method
  | authenticate (ex : Exchange (Except String TokenResponse))
  | startBulkDataExport (types : List ResourceType) (since : Time) (groupID : String)
      (ex : Exchange Unit)
  | jobStatus (url : String) (ex : Exchange (Except String JobStatusResponse))
  | getData (url : String) (ex : Exchange Bytes)

/-- What a run records of one call; `token?` is the token `Authenticate` returned. -/
structure Step where
  method : Method
  before : Client
  after : Client
  err : Option Error
  token? : Option String
  sent : Option Request

/-- One call on the client. -/
def Client.invoke (lib : Lib) (c : Client) : Method → Step
  | .authenticate ex =>
      let o := c.authenticate lib ex
      ⟨.authenticate ex, c, o.client, o.err, some o.value, o.sent⟩
  | .startBulkDataExport types since groupID ex =>
      let o := c.startBulkDataExport lib types since groupID ex
      ⟨.startBulkDataExport types since groupID ex, c, o.client, o.err, none, o.sent⟩
  | .jobStatus url ex =>
      let o := c.jobStatus lib url ex
      ⟨.jobStatus url ex, c, o.client, o.err, none, o.sent⟩
  | .getData url ex =>
      let o := c.getData lib url ex
      ⟨.getData url ex, c, o.client, o.err, none, o.sent⟩

/-- The calls of a run, each on the client the previous one left. -/
def Client.run (lib : Lib) : Client → List Method → List Step
  | _, [] => []
  | c, m :: ms => c.invoke lib m :: (c.invoke lib m).after.run lib ms

/-- The client after a run. -/
def Client.runAfter (lib : Lib) : Client → List Method → Client
  | c, [] => c
  | c, m :: ms => (c.invoke lib m).after.runAfter lib ms

theorem Client.runAfter_append (lib : Lib) (c : Client) (ms₁ ms₂ : List Method) :
    c.runAfter lib (ms₁ ++ ms₂) = (c.runAfter lib ms₁).runAfter lib ms₂ := by
  induction ms₁ generalizing c with
  | nil => rfl
  | cons m ms₁ ih => exact ih _

/-- The token returned by the last call of `steps` that is an `Authenticate` with a
`nil` error, or `initial` when there is none. -/
def lastAuthToken (initial : String) : List Step → String
  | [] => initial
  | s :: ss => lastAuthToken (if s.err = none then s.token?.getD initial else initial) ss

@[simp] theorem invoke_before (lib : Lib) (c : Client) (m : Method) :
    (c.invoke lib m).before = c := by
  cases m <;> rfl

@[simp] theorem invoke_method (lib : Lib) (c : Client) (m : Method) :
    (c.invoke lib m).method = m := by
  cases m <;> rfl

theorem invoke_token?_isSome (lib : Lib) (c : Client) (m : Method) :
    (c.invoke lib m).token?.isSome → ∃ ex, m = .authenticate ex := by
  cases m <;> simp [Client.invoke]

/-- One call stores the token it returned if it returned a `nil` error, and otherwise
keeps the token. -/
theorem invoke_after_token (lib : Lib) (c : Client) (m : Method) :
    (c.invoke lib m).after.token =
      if (c.invoke lib m).err = none then (c.invoke lib m).token?.getD c.token else c.token := by
  cases m with
  | authenticate ex =>
      rcases authenticate_spec lib c ex with ⟨he, -, h⟩ | ⟨he, h⟩
      · simp [Client.invoke, h, Option.isSome_iff_ne_none.1 he]
      · simp [Client.invoke, h, he]
  | startBulkDataExport => simp [Client.invoke, startBulkDataExport_client]
  | jobStatus => simp [Client.invoke, jobStatus_client]
  | getData => simp [Client.invoke, getData_client]

theorem invoke_of_token_empty (lib : Lib) {c : Client} (h : c.token = "") (m : Method)
    (hm : (c.invoke lib m).token? = none) :
    (c.invoke lib m).err = some errorUnauthorized ∧ (c.invoke lib m).sent = none := by
  cases m with
  | authenticate => cases hm
  | startBulkDataExport => exact startBulkDataExport_of_token_empty lib h ..
  | jobStatus => exact jobStatus_of_token_empty lib h ..
  | getData => exact getData_of_token_empty lib h ..

/-- Over every run, in any order and against any answers: the stored token is the one
the last successful `Authenticate` returned (the first token if none succeeded); a
call changes it only by being such an `Authenticate`; and every other call made
without a token fails with `ErrorUnauthorized` before any request is sent. -/
theorem run_token_discipline (lib : Lib) (c : Client) (ms : List Method) :
    (c.runAfter lib ms).token = lastAuthToken c.token (c.run lib ms) ∧
      ∀ s ∈ c.run lib ms,
        (s.after.token ≠ s.before.token →
          (∃ ex, s.method = .authenticate ex) ∧ s.err = none ∧ s.token? = some s.after.token) ∧
        (s.before.token = "" → s.token? = none →
          s.err = some errorUnauthorized ∧ s.sent = none) := by
  induction ms generalizing c with
  | nil => simp [Client.runAfter, Client.run, lastAuthToken]
  | cons m ms ih =>
      have hafter := invoke_after_token lib c m
      refine ⟨by rw [Client.runAfter, Client.run, lastAuthToken, (ih _).1, hafter], ?_⟩
      intro s hs
      rw [Client.run, List.mem_cons] at hs
      rcases hs with rfl | hs
      · simp only [invoke_before, invoke_method]
        refine ⟨fun hne => ?_, fun hempty hnone => invoke_of_token_empty lib hempty m hnone⟩
        have he : (c.invoke lib m).err = none := by
          by_contra he; exact hne (by simp [hafter, he])
        obtain ⟨t, ht⟩ : ∃ t, (c.invoke lib m).token? = some t := by
          cases h : (c.invoke lib m).token? with
          | none => exact absurd (by simp [hafter, he, h]) hne
          | some t => exact ⟨t, rfl⟩
        exact ⟨invoke_token?_isSome lib c m (by simp [ht]), he, by simp [hafter, he, ht]⟩
      · exact (ih _).2 s hs

/-- `Authenticate` never reads the status: a 401 whose body decodes without an
`access_token` returns a `nil` error and replaces the stored token by the empty one,
and the next `GetData` fails with `ErrorUnauthorized` without a request. Each step
reads as its token before, its error, whether it sent a request, its token after. -/
theorem authenticate_stores_empty_token :
    (sandboxClient.run Lib.nanoInstants
        [.authenticate (.ok ⟨401, [], .ok ⟨""⟩⟩),
          .getData "https://sandbox.bcda.cms.gov/data/1.ndjson" (.ok ⟨200, [], []⟩)]).map
      (fun s => (s.before.token, s.err, s.sent.isSome, s.after.token)) =
      [("t", none, true, ""), ("", some errorUnauthorized, false, "")] := by
  decide

end BulkFhir
