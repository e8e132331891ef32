import BulkFhir.ResourceType
import BulkFhir.Http

/-! # The authenticated client

`Client` and the three calls of `client.go` that are not about job status:
`Authenticate`, `StartBulkDataExport` and `GetData`. Each call returns its Go
results together with the client afterwards and the request it handed to
`httpClient.Do`; only `Authenticate` changes the client.
-/

namespace BulkFhir

/-- `Client`; the `http.Client` is the `Exchange` each call receives. -/
structure Client where
  baseURL : String
  fullAuthURL : String
  clientID : String
  clientSecret : String
  authScopes : List String
  token : String
  deriving DecidableEq, Repr

/-- `NewClient`: a client starts without a token. -/
def newClient (baseURL fullAuthURL clientID clientSecret : String) (authScopes : List String) :
    Client :=
  { baseURL, fullAuthURL, clientID, clientSecret, authScopes, token := "" }

/-- A client holding a token, to evaluate the model on. -/
def sandboxClient : Client :=
  { newClient "https://sandbox.bcda.cms.gov/api/v2" "https://sandbox.bcda.cms.gov/auth/token"
      "id" "secret" [] with token := "t" }

/-- One call of a `Client` method: its Go results, the client afterwards, and the
request handed to `httpClient.Do`, if the call got that far. -/
structure Outcome (α : Type) where
  value : α
  err : Option Error
  client : Client
  sent : Option Request

/-- `"unexpected non-OK http status code: %d %w"` around `ErrorUnexpectedStatusCode`. -/
def unexpectedStatusError (code : Int) : Error :=
  .wrapped ("unexpected non-OK http status code: " ++ toString code ++ " ") .unexpectedStatusCode

/-- `retryableNonOKError`. -/
def retryableNonOKError (code : Int) : Error :=
  .wrapped ("unexpected non-OK http status code: " ++ toString code ++ " ") .retryableHTTPStatus

/-! ## Authenticate -/

/-- `tokenResponse`; a body without `access_token` decodes to the empty token. -/
structure TokenResponse where
  token : String
  deriving DecidableEq, Repr

/-- `buildAuthBody`: the `url.Values` of the form body, when there are scopes. -/
def buildAuthBody (scopes : List String) : Option (List (String × String)) :=
  if h : scopes.length = 0 then none
  else
    let s := (scopes.take (scopes.length - 1)).foldl (fun b scope => b ++ (scope ++ " ")) ""
    some [("scope", s ++ scopes.get ⟨scopes.length - 1, by omega⟩),
      ("grant_type", "client_credentials")]

theorem foldl_scopes_eq_go (x : String) (init : List String) (acc last : String) :
    (x :: init).foldl (fun b scope => b ++ (scope ++ " ")) acc ++ last =
      String.intercalate.go (acc ++ x) " " (init ++ [last]) := by
  induction init generalizing acc x with
  | nil => simp [String.intercalate.go, String.append_assoc]
  | cons y init ih =>
      rw [List.foldl_cons, ih, List.cons_append, String.intercalate.go]
      simp only [String.append_assoc]

/-- `buildAuthBody` has no body exactly when there are no scopes; otherwise the scope value
is `strings.Join(scopes, " ")`, next to `grant_type=client_credentials`. -/
theorem buildAuthBody_eq_join (scopes : List String) :
    buildAuthBody scopes = if scopes = [] then none
      else some [("scope", " ".intercalate scopes), ("grant_type", "client_credentials")] := by
  rcases List.eq_nil_or_concat scopes with rfl | ⟨init, last, rfl⟩
  · rfl
  · cases init with
    | nil => rfl
    | cons x init => simpa [buildAuthBody] using foldl_scopes_eq_go x init "" last

/-- The token request of `Authenticate`. -/
def authRequest (c : Client) : Request :=
  let body := buildAuthBody c.authScopes
  { method := "POST", url := c.fullAuthURL, basicAuth := some (c.clientID, c.clientSecret),
    header := ("Accept", "application/json") ::
      (if body.isSome then [("Content-Type", "application/x-www-form-urlencoded")] else []),
    form := body }

/-- `Authenticate`. The status code is never read: any decodable body sets the token. -/
def Client.authenticate (lib : Lib) (c : Client) (ex : Exchange (Except String TokenResponse)) :
    Outcome String :=
  match lib.urlError c.fullAuthURL with
  | some e => ⟨"", some (.plain e), c, none⟩
  | none =>
      match ex with
      | .error e => ⟨"", some (.plain e), c, some (authRequest c)⟩
      | .ok resp =>
          match resp.body with
          | .error e => ⟨"", some (.plain e), c, some (authRequest c)⟩
          | .ok tr => ⟨tr.token, none, { c with token := tr.token }, some (authRequest c)⟩

/-- `Authenticate` either fails and leaves the client alone, or succeeds and stores the
token it returns. -/
theorem authenticate_spec (lib : Lib) (c : Client) (ex : Exchange (Except String TokenResponse)) :
    let o := c.authenticate lib ex
    (o.err.isSome ∧ o.value = "" ∧ o.client = c) ∨
      (o.err = none ∧ o.client = { c with token := o.value }) := by
  unfold Client.authenticate
  split
  · simp
  · split
    · simp
    · split <;> simp

theorem authenticate_err_is (lib : Lib) (c : Client) (ex : Exchange (Except String TokenResponse))
    {e : Error} (h : (c.authenticate lib ex).err = some e) (s : Sentinel) : e.is s = false := by
  unfold Client.authenticate at h
  split at h
  · cases h; rfl
  · split at h
    · cases h; rfl
    · split at h <;> cases h; rfl

/-- `Authenticate` succeeds with token `tok` exactly when the authentication URL parses
and the server's answer, whatever its status code, has a body that decodes to `tok`;
the client then holds `tok`, even when it is empty. -/
theorem authenticate_eq_ok (lib : Lib) (c : Client) (ex : Exchange (Except String TokenResponse))
    (tok : String) :
    (((c.authenticate lib ex).err = none ∧ (c.authenticate lib ex).value = tok) ↔
        lib.urlError c.fullAuthURL = none ∧ ∃ resp, ex = .ok resp ∧ resp.body = .ok ⟨tok⟩) ∧
      ((c.authenticate lib ex).err = none →
        (c.authenticate lib ex).client = { c with token := (c.authenticate lib ex).value }) := by
  refine ⟨?_, fun he => (authenticate_spec lib c ex).elim (fun ⟨h, _⟩ => by simp [he] at h) (·.2)⟩
  unfold Client.authenticate
  cases lib.urlError c.fullAuthURL with
  | some e => simp
  | none =>
      rcases ex with e | ⟨code, header, body⟩
      · simp
      · rcases body with e | ⟨⟨t⟩⟩ <;> simp

/-! ## StartBulkDataExport -/

/-- The URL `StartBulkDataExport` parses. -/
def exportURL (c : Client) (groupID : String) : String :=
  c.baseURL ++ "/Group/" ++ groupID ++ "/$export"

/-- The `_type` parameter, added when `len(types) > 0`. -/
def typeQuery (types : List ResourceType) : Except Error (List (String × String)) :=
  if h : types = [] then .ok []
  else (fun v => [("_type", v)]) <$> resourceTypesToQueryValue types h

/-- How `StartBulkDataExport` reads the server's answer. -/
def exportAnswer (resp : Response Unit) : String × Option Error :=
  if resp.statusCode = 401 then ("", some errorUnauthorized)
  else if resp.statusCode ≠ 200 ∧ resp.statusCode ≠ 202 then
    ("", some (.wrapped ("unexpected non-OK and non-Accepted http status code: " ++
      toString resp.statusCode ++ " ") .unexpectedStatusCode))
  else
    match resp.header.values "Content-Location" with
    | [loc] => (loc, none)
    | locs => ("", some (.wrapped ("one Content-Location header value expected. Instead got: " ++
        toString locs.length ++ " ") .greaterThanOneContentLocation))

/-- `StartBulkDataExport`. -/
def Client.startBulkDataExport (lib : Lib) (c : Client) (types : List ResourceType) (since : Time)
    (groupID : String) (ex : Exchange Unit) : Outcome String :=
  if c.token = "" then ⟨"", some errorUnauthorized, c, none⟩
  else
    match lib.urlError (exportURL c groupID) with
    | some e => ⟨"", some (.plain e), c, none⟩
    | none =>
        let sinceQuery := if since.isZero then [] else [("_since", lib.toFHIRInstant since)]
        match typeQuery types with
        | .error e => ⟨"", some e, c, none⟩
        | .ok tq =>
            let req : Request :=
              { method := "GET", url := exportURL c groupID, query := sinceQuery ++ tq,
                header := [("Accept", "application/fhir+json"), ("Prefer", "respond-async"),
                  bearer c.token] }
            match ex with
            | .error e => ⟨"", some (.plain e), c, some req⟩
            | .ok resp => ⟨(exportAnswer resp).1, (exportAnswer resp).2, c, some req⟩

theorem startBulkDataExport_client (lib : Lib) (c : Client) (types : List ResourceType)
    (since : Time) (groupID : String) (ex : Exchange Unit) :
    (c.startBulkDataExport lib types since groupID ex).client = c := by
  unfold Client.startBulkDataExport
  split_ifs <;> repeat' split
  all_goals rfl

theorem startBulkDataExport_of_token_empty (lib : Lib) {c : Client} (h : c.token = "")
    (types : List ResourceType) (since : Time) (groupID : String) (ex : Exchange Unit) :
    (c.startBulkDataExport lib types since groupID ex).err = some errorUnauthorized ∧
      (c.startBulkDataExport lib types since groupID ex).sent = none := by
  simp [Client.startBulkDataExport, h]

theorem typeQuery_eq_ok {types : List ResourceType} {tq : List (String × String)}
    (h : typeQuery types = .ok tq) :
    (types = [] → tq = []) ∧
      (types ≠ [] → ∃ v, tq = [("_type", v)] ∧
        (splitComma v).mapM resourceTypeFromAPI = .ok types) := by
  refine ⟨fun he => by simpa [typeQuery, he, eq_comm] using h, fun hne => ?_⟩
  rw [typeQuery, dif_neg hne] at h
  cases hv : resourceTypesToQueryValue types hne with
  | error e => rw [hv] at h; cases h
  | ok v =>
      rw [hv] at h
      cases h
      exact ⟨v, rfl, splitComma_resourceTypesToQueryValue hv⟩

theorem typeQuery_eq_error {types : List ResourceType} {e : Error} (h : typeQuery types = .error e) :
    e = .plain "the specified resource type does not have a mapped BCDA API value" := by
  by_cases hne : types = []
  · simp [typeQuery, hne] at h
  rw [typeQuery, dif_neg hne] at h
  cases hv : resourceTypesToQueryValue types hne with
  | error e' => rw [hv] at h; cases h; exact resourceTypesToQueryValue_eq_error hv
  | ok v => rw [hv] at h; cases h

theorem typeQuery_isOk_iff (types : List ResourceType) :
    (∃ tq, typeQuery types = .ok tq) ↔ ∀ t ∈ types, ∃ s, t.toAPI = .ok s := by
  by_cases hne : types = []
  · simp [typeQuery, hne]
  have herr := resourceTypesToQueryValue_error_iff types hne
  rw [typeQuery, dif_neg hne]
  cases hv : resourceTypesToQueryValue types hne with
  | error e =>
      obtain ⟨t, ht, e', he'⟩ := herr.1 ⟨e, hv⟩
      refine ⟨fun ⟨_, h⟩ => (by cases h), fun hall => ?_⟩
      obtain ⟨s, hs⟩ := hall t ht
      rw [hs] at he'
      cases he'
  | ok v =>
      refine ⟨fun _ t ht => ?_, fun _ => ⟨_, rfl⟩⟩
      cases h : t.toAPI with
      | ok s => exact ⟨s, rfl⟩
      | error e =>
          obtain ⟨e', he'⟩ := herr.2 ⟨t, ht, e, h⟩
          rw [hv] at he'
          cases he'

theorem exportAnswer_eq_ok (resp : Response Unit) (loc : String) :
    exportAnswer resp = (loc, none) ↔
      (resp.statusCode = 200 ∨ resp.statusCode = 202) ∧
        resp.header.values "Content-Location" = [loc] := by
  unfold exportAnswer
  split_ifs with h401 hok
  · simp [h401]
  · simp only [Prod.mk.injEq, reduceCtorEq, and_false, false_iff, not_and]
    omega
  · have hcode : resp.statusCode = 200 ∨ resp.statusCode = 202 := by omega
    split <;> simp_all

theorem startBulkDataExport_sent {lib : Lib} {c : Client} {types : List ResourceType}
    {since : Time} {groupID : String} {ex : Exchange Unit} {req : Request}
    (h : (c.startBulkDataExport lib types since groupID ex).sent = some req) :
    c.token ≠ "" ∧ req.url = exportURL c groupID ∧ bearer c.token ∈ req.header ∧
      ∃ tq, req.query = (if since.isZero then [] else [("_since", lib.toFHIRInstant since)]) ++ tq ∧
        (types = [] → tq = []) ∧
        (types ≠ [] → ∃ v, tq = [("_type", v)] ∧
          (splitComma v).mapM resourceTypeFromAPI = .ok types) := by
  by_cases htok : c.token = ""
  · simp [Client.startBulkDataExport, htok] at h
  unfold Client.startBulkDataExport at h
  rw [if_neg htok] at h
  split at h
  · cases h
  simp only at h
  generalize (if since.isZero = true then [] else [("_since", lib.toFHIRInstant since)]) = sq at h ⊢
  split at h
  · cases h
  rename_i tq htq
  refine ⟨htok, ?_⟩
  split at h <;> (simp only [Option.some.injEq] at h; subst h) <;>
    exact ⟨rfl, by simp, tq, rfl, typeQuery_eq_ok htq⟩

/-- `StartBulkDataExport` returns a job URL with a `nil` error exactly when the client
holds a token, the export URL parses, every requested type has an API name, and the
server answered 200 or 202 with a single `Content-Location`, which is the URL returned. -/
theorem startBulkDataExport_eq_ok (lib : Lib) (c : Client) (types : List ResourceType)
    (since : Time) (groupID : String) (ex : Exchange Unit) (loc : String) :
    ((c.startBulkDataExport lib types since groupID ex).value = loc ∧
        (c.startBulkDataExport lib types since groupID ex).err = none) ↔
      c.token ≠ "" ∧ lib.urlError (exportURL c groupID) = none ∧
        (∀ t ∈ types, ∃ s, t.toAPI = .ok s) ∧
        ∃ resp, ex = .ok resp ∧ (resp.statusCode = 200 ∨ resp.statusCode = 202) ∧
          resp.header.values "Content-Location" = [loc] := by
  rw [← typeQuery_isOk_iff]
  by_cases htok : c.token = ""
  · simp [Client.startBulkDataExport, htok]
  cases hurl : lib.urlError (exportURL c groupID) with
  | some e => simp [Client.startBulkDataExport, htok, hurl]
  | none =>
      cases htq : typeQuery types with
      | error e => simp [Client.startBulkDataExport, htok, hurl, htq]
      | ok tq =>
          cases ex with
          | error e => simp [Client.startBulkDataExport, htok, hurl, htq]
          | ok resp =>
              simp [Client.startBulkDataExport, htok, hurl, htq, ← exportAnswer_eq_ok, Prod.ext_iff]

/-! ## GetData -/

/-- How `GetData` reads the server's answer. -/
def dataAnswer {β : Type} (resp : Response β) : Option β × Option Error :=
  if resp.statusCode = 200 then (some resp.body, none)
  else if resp.statusCode = 401 then (none, some errorUnauthorized)
  else if resp.statusCode = 404 then (none, some (retryableNonOKError 404))
  else (none, some (unexpectedStatusError resp.statusCode))

/-- `GetData`; the body stream is returned to the caller unread. -/
def Client.getData {β : Type} (lib : Lib) (c : Client) (bcdaURL : String) (ex : Exchange β) :
    Outcome (Option β) :=
  if c.token = "" then ⟨none, some errorUnauthorized, c, none⟩
  else
    match lib.urlError bcdaURL with
    | some e => ⟨none, some (.plain e), c, none⟩
    | none =>
        let req : Request := { method := "GET", url := bcdaURL, header := [bearer c.token] }
        match ex with
        | .error e => ⟨none, some (.plain e), c, some req⟩
        | .ok resp => ⟨(dataAnswer resp).1, (dataAnswer resp).2, c, some req⟩

theorem getData_client {β : Type} (lib : Lib) (c : Client) (bcdaURL : String) (ex : Exchange β) :
    (c.getData lib bcdaURL ex).client = c := by
  unfold Client.getData
  split
  · rfl
  · split
    · rfl
    · split <;> rfl

theorem getData_of_token_empty {β : Type} (lib : Lib) {c : Client} (h : c.token = "")
    (bcdaURL : String) (ex : Exchange β) :
    (c.getData lib bcdaURL ex).err = some errorUnauthorized ∧
      (c.getData lib bcdaURL ex).sent = none := by
  simp [Client.getData, h]

/-- `GetData` returns a `nil` error exactly when it returns a body, and it returns one
exactly when the client holds a token, the URL parses and the server answered 200: the
body of that answer, unread. -/
theorem getData_eq_some {β : Type} (lib : Lib) (c : Client) (bcdaURL : String) (ex : Exchange β)
    (b : β) :
    ((c.getData lib bcdaURL ex).err = none ↔ (c.getData lib bcdaURL ex).value.isSome) ∧
      ((c.getData lib bcdaURL ex).value = some b ↔
        c.token ≠ "" ∧ lib.urlError bcdaURL = none ∧
          ∃ resp, ex = .ok resp ∧ resp.statusCode = 200 ∧ resp.body = b) := by
  by_cases htok : c.token = ""
  · simp [Client.getData, htok]
  cases hurl : lib.urlError bcdaURL with
  | some e => simp [Client.getData, htok, hurl]
  | none =>
      cases ex with
      | error e => simp [Client.getData, htok, hurl]
      | ok resp =>
          simp only [Client.getData, htok, hurl, if_false, dataAnswer]
          split_ifs <;> simp_all

end BulkFhir
