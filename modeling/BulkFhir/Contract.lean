import BulkFhir.Session

/-! # The client's contract with its callers

What a caller of `Client` can rely on over every run of its calls, in any order and
against any answers. Each call's error says what went wrong through the sentinels it
wraps: `ErrorUnauthorized` exactly when a call that needs a token had none or the
server answered 401, `ErrorRetryableHTTPStatus` exactly when `GetData` was answered
404, and nothing else outside each call's own short list (`Method.sentinels`).
`ErrorTimeout` and `ErrorUnimplemented` are never returned by a call. The client
secret goes only into the token request; every other request carries the token.
-/

namespace BulkFhir

/-- The status code of what `Do` returned, if it returned a response. -/
def Exchange.statusCode? {β : Type} : Exchange β → Option Int
  | .ok resp => some resp.statusCode
  | .error _ => none

namespace Method

/-- The status code of the server's answer to the call. -/
def answer? : Method → Option Int
  | .authenticate ex => Exchange.statusCode? ex
  | .startBulkDataExport _ _ _ ex => Exchange.statusCode? ex
  | .jobStatus _ ex => Exchange.statusCode? ex
  | .getData _ ex => Exchange.statusCode? ex

/-- Every call but `Authenticate` starts with `if len(c.token) == 0`. -/
def needsToken : Method → Bool
  | .authenticate _ => false
  | _ => true

def isGetData : Method → Bool
  | .getData _ _ => true
  | _ => false

/-- The sentinels a call's errors may wrap. -/
def sentinels : Method → List Sentinel
  | .authenticate _ => []
  | .startBulkDataExport .. => [.unauthorized, .unexpectedStatusCode, .greaterThanOneContentLocation]
  | .jobStatus .. =>
      [.unauthorized, .unableToParseProgress, .unexpectedNumberOfXProgress, .unexpectedStatusCode]
  | .getData .. => [.unauthorized, .retryableHTTPStatus, .unexpectedStatusCode]

end Method

/-! ## Errors -/

/-- What an error read off the server's answer says: the sentinels it may wrap, and
which status codes give `ErrorUnauthorized` and `ErrorRetryableHTTPStatus`. -/
structure AnswerContract (err : Option Error) (code : Int) (sentinels : List Sentinel)
    (retries : Bool) : Prop where
  sentinels : ∀ e, err = some e → ∀ sn, e.is sn = true → sn ∈ sentinels
  unauthorized : err.any (·.is .unauthorized) = true ↔ code = 401
  retryable : err.any (·.is .retryableHTTPStatus) = true ↔ retries = true ∧ code = 404

theorem dataAnswer_contract {β : Type} (resp : Response β) :
    AnswerContract (dataAnswer resp).2 resp.statusCode
      [.unauthorized, .retryableHTTPStatus, .unexpectedStatusCode] true := by
  unfold dataAnswer
  split_ifs with h200 h401 h404 <;> constructor <;>
    simp_all [errorUnauthorized, retryableNonOKError, unexpectedStatusError]

theorem exportAnswer_contract (resp : Response Unit) :
    AnswerContract (exportAnswer resp).2 resp.statusCode
      [.unauthorized, .unexpectedStatusCode, .greaterThanOneContentLocation] false := by
  unfold exportAnswer
  split_ifs with h401 hok
  · constructor <;> simp [h401, errorUnauthorized]
  · constructor <;> simp [h401]
  · split <;> constructor <;> simp [h401]

theorem statusAnswer_contract (lib : Lib) (resp : Response (Except String JobStatusResponse)) :
    AnswerContract (statusAnswer lib resp).2 resp.statusCode
      [.unauthorized, .unableToParseProgress, .unexpectedNumberOfXProgress, .unexpectedStatusCode]
      false where
  sentinels e h sn hs := by
    rcases statusAnswer_err_is h hs with ⟨rfl, -⟩ | rfl | rfl | rfl <;> simp
  unauthorized := statusAnswer_err_is_unauthorized lib resp
  retryable := by
    cases h : (statusAnswer lib resp).2 with
    | none => simp
    | some e =>
        simp only [Option.any_some, Bool.false_eq_true, false_and, iff_false, Bool.not_eq_true]
        rw [Bool.eq_false_iff]
        intro hs
        simpa using statusAnswer_err_is h hs

/-- What a call's error says, in terms of the call, the token it was made with, whether
its request went out, and the status code of the answer. -/
structure Step.ErrorContract (s : Step) : Prop where
  sentinels : ∀ e, s.err = some e → ∀ sn, e.is sn = true → sn ∈ s.method.sentinels
  unauthorized : s.err.any (·.is .unauthorized) = true ↔
    s.method.needsToken = true ∧ (s.before.token = "" ∨ s.sent.isSome ∧ s.method.answer? = some 401)
  retryable : s.err.any (·.is .retryableHTTPStatus) = true ↔
    s.method.isGetData = true ∧ s.sent.isSome ∧ s.method.answer? = some 404

/-- A call that needs a token keeps the contract when it ends in one of the three ways
the data calls end: no token; an error that wraps no sentinel, before any answer; or
the reading of an answer. -/
theorem Step.errorContract_of_cases (s : Step) (hneeds : s.method.needsToken = true)
    (hu : Sentinel.unauthorized ∈ s.method.sentinels)
    (h : (s.before.token = "" ∧ s.err = some errorUnauthorized ∧ s.sent = none) ∨
      (s.before.token ≠ "" ∧ (∀ e, s.err = some e → ∀ sn, e.is sn = false) ∧
        (s.sent = none ∨ s.method.answer? = none)) ∨
      (s.before.token ≠ "" ∧ s.sent.isSome ∧ ∃ code, s.method.answer? = some code ∧
        AnswerContract s.err code s.method.sentinels s.method.isGetData)) :
    s.ErrorContract := by
  rcases h with ⟨htok, herr, hsent⟩ | ⟨htok, herr, hnone⟩ | ⟨htok, hsent, code, hcode, hac⟩
  · refine ⟨fun e he sn hs => ?_, ?_, ?_⟩
    · cases herr.symm.trans he
      simp only [errorUnauthorized, Error.is_sentinel, decide_eq_true_eq] at hs
      exact hs ▸ hu
    · simp [herr, errorUnauthorized, hneeds, htok]
    · simp [herr, errorUnauthorized, hsent]
  · have hany : ∀ sn, s.err.any (·.is sn) = false := fun sn => by
      cases he : s.err with
      | none => rfl
      | some e => simpa using herr e he sn
    refine ⟨fun e he sn hs => absurd hs (by simp [herr e he sn]), ?_, ?_⟩ <;>
      rcases hnone with h | h <;> simp [hany, htok, h]
  · refine ⟨hac.sentinels, ?_, ?_⟩
    · simp [hac.unauthorized, hneeds, htok, hsent, hcode]
    · simp [hac.retryable, hsent, hcode]

theorem authenticate_errorContract (lib : Lib) (c : Client) (ex : Exchange (Except String TokenResponse)) :
    (c.invoke lib (.authenticate ex)).ErrorContract := by
  have hno : ∀ sn, (c.invoke lib (.authenticate ex)).err.any (·.is sn) = false := fun sn => by
    cases he : (c.authenticate lib ex).err with
    | none => simp [Client.invoke, he]
    | some e => simpa [Client.invoke, he] using authenticate_err_is lib c ex he sn
  refine ⟨fun e he sn hs => ?_, by simp [hno, Method.needsToken], by simp [hno, Method.isGetData]⟩
  have := hno sn
  simp [he, hs] at this

theorem startBulkDataExport_errorContract (lib : Lib) (c : Client) (types : List ResourceType)
    (since : Time) (groupID : String) (ex : Exchange Unit) :
    (c.invoke lib (.startBulkDataExport types since groupID ex)).ErrorContract := by
  refine Step.errorContract_of_cases _ rfl (by simp [Method.sentinels]) ?_
  simp only [Client.invoke, Client.startBulkDataExport]
  by_cases htok : c.token = ""
  · rw [if_pos htok]; exact .inl ⟨htok, rfl, rfl⟩
  rw [if_neg htok]
  split
  · exact .inr (.inl ⟨htok, by simp, .inl rfl⟩)
  split
  · rename_i e he
    exact .inr (.inl ⟨htok, by simp [typeQuery_eq_error he], .inl rfl⟩)
  split
  · exact .inr (.inl ⟨htok, by simp, .inr rfl⟩)
  · exact .inr (.inr ⟨htok, rfl, _, rfl, exportAnswer_contract _⟩)

theorem jobStatus_errorContract (lib : Lib) (c : Client) (url : String)
    (ex : Exchange (Except String JobStatusResponse)) :
    (c.invoke lib (.jobStatus url ex)).ErrorContract := by
  refine Step.errorContract_of_cases _ rfl (by simp [Method.sentinels]) ?_
  simp only [Client.invoke, Client.jobStatus]
  by_cases htok : c.token = ""
  · rw [if_pos htok]; exact .inl ⟨htok, rfl, rfl⟩
  rw [if_neg htok]
  split
  · exact .inr (.inl ⟨htok, by simp, .inl rfl⟩)
  split
  · exact .inr (.inl ⟨htok, by simp, .inr rfl⟩)
  · exact .inr (.inr ⟨htok, rfl, _, rfl, statusAnswer_contract lib _⟩)

theorem getData_errorContract (lib : Lib) (c : Client) (url : String) (ex : Exchange Bytes) :
    (c.invoke lib (.getData url ex)).ErrorContract := by
  refine Step.errorContract_of_cases _ rfl (by simp [Method.sentinels]) ?_
  simp only [Client.invoke, Client.getData]
  by_cases htok : c.token = ""
  · rw [if_pos htok]; exact .inl ⟨htok, rfl, rfl⟩
  rw [if_neg htok]
  split
  · exact .inr (.inl ⟨htok, by simp, .inl rfl⟩)
  split
  · exact .inr (.inl ⟨htok, by simp, .inr rfl⟩)
  · exact .inr (.inr ⟨htok, rfl, _, rfl, dataAnswer_contract _⟩)

theorem invoke_errorContract (lib : Lib) (c : Client) (m : Method) : (c.invoke lib m).ErrorContract := by
  cases m with
  | authenticate ex => exact authenticate_errorContract lib c ex
  | startBulkDataExport types since groupID ex =>
      exact startBulkDataExport_errorContract lib c types since groupID ex
  | jobStatus url ex => exact jobStatus_errorContract lib c url ex
  | getData url ex => exact getData_errorContract lib c url ex

theorem Client.eq_invoke_of_mem_run {lib : Lib} {c : Client} {ms : List Method} {s : Step}
    (h : s ∈ c.run lib ms) : s = s.before.invoke lib s.method := by
  induction ms generalizing c with
  | nil => cases h
  | cons m ms ih =>
      rw [Client.run, List.mem_cons] at h
      rcases h with rfl | h
      · simp
      · exact ih h

/-- Over every run of client calls, in any order and against any answers, each call's
error wraps only the sentinels of its own method; it `Is` `ErrorUnauthorized` exactly
when the call needs a token and either had none or was answered 401; and it `Is`
`ErrorRetryableHTTPStatus` exactly when it is a `GetData` answered 404. -/
theorem run_error_contract (lib : Lib) (c : Client) (ms : List Method) :
    ∀ s ∈ c.run lib ms, s.ErrorContract := fun s hs => by
  rw [Client.eq_invoke_of_mem_run hs]
  exact invoke_errorContract lib _ _

theorem run_error_contract_not_found :
    let m := Method.getData "https://sandbox.bcda.cms.gov/data/1.ndjson" (.ok ⟨404, [], []⟩)
    sandboxClient.invoke Lib.nanoInstants m ∈ sandboxClient.run Lib.nanoInstants [m] ∧
      (sandboxClient.invoke Lib.nanoInstants m).ErrorContract := by
  intro m
  have hmem : _ ∈ sandboxClient.run Lib.nanoInstants [m] := List.mem_cons_self ..
  exact ⟨hmem, run_error_contract Lib.nanoInstants sandboxClient [m] _ hmem⟩

/-! ## Credentials -/

/-- What a call sends: `Authenticate` its token request; every other call, with a
token, a request carrying that token and no basic auth. -/
theorem invoke_sent (lib : Lib) (c : Client) (m : Method) {req : Request}
    (h : (c.invoke lib m).sent = some req) :
    (∃ ex, m = .authenticate ex) ∧ req = authRequest c ∨
      m.needsToken = true ∧ c.token ≠ "" ∧ req.basicAuth = none ∧ bearer c.token ∈ req.header := by
  cases m with
  | authenticate ex =>
      refine .inl ⟨⟨ex, rfl⟩, ?_⟩
      simp only [Client.invoke, Client.authenticate] at h
      split at h
      · cases h
      · split at h <;> (try split at h) <;> simpa [eq_comm] using h
  | startBulkDataExport types since groupID ex =>
      obtain ⟨htok, -, hbearer, -⟩ := startBulkDataExport_sent h
      refine .inr ⟨rfl, htok, ?_, hbearer⟩
      simp only [Client.invoke, Client.startBulkDataExport, if_neg htok] at h
      split at h
      · cases h
      split at h
      · cases h
      split at h <;> simp only [Option.some.injEq] at h <;> exact h ▸ rfl
  | jobStatus url ex | getData url ex =>
      simp only [Client.invoke, Client.jobStatus, Client.getData] at h
      split_ifs at h with htok
      split at h
      · cases h
      split at h <;> simp only [Option.some.injEq] at h <;> exact .inr ⟨rfl, htok, h ▸ rfl, h ▸ by simp⟩

/-- Over every run, in any order and against any answers, the client secret leaves the
client only in `Authenticate`'s token request, sent to the authentication URL; every
other request carries no basic auth and, as a bearer token, the token the client held
when the call was made, which is never empty. -/
theorem run_credentials (lib : Lib) (c : Client) (ms : List Method) :
    ∀ s ∈ c.run lib ms, ∀ req, s.sent = some req →
      ((∃ ex, s.method = .authenticate ex) ∧ req.url = s.before.fullAuthURL ∧
          req.basicAuth = some (s.before.clientID, s.before.clientSecret)) ∨
        (s.method.needsToken = true ∧ s.before.token ≠ "" ∧ req.basicAuth = none ∧
          bearer s.before.token ∈ req.header) := fun s hs req hreq => by
  rw [Client.eq_invoke_of_mem_run hs] at hreq
  rcases invoke_sent lib _ _ hreq with ⟨hm, rfl⟩ | h
  · exact .inl ⟨hm, rfl, rfl⟩
  · exact .inr h

end BulkFhir
