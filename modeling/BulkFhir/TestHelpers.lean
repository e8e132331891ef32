import BulkFhir.Basic

/-! # The FHIR store test server

`testhelpers.FHIRStoreServer` answers the upload requests of the code under test and,
when the test ends, reports every expected resource that was never uploaded. A request
is matched to the first expected resource whose store path equals its URL
(`validateURLAndMatchResource`); the handler then flags that resource as uploaded,
whatever the method and the body, and answers 500 to a URL that matches none.

Handlers run concurrently. They share only the flag array, written under a mutex, and
the test's log. A handler's one write of the array sets a flag to true, so every
interleaving leaves the flags that handling the requests one after another leaves, and
the order does not matter (`serve_perm`). `NormalizeJSON` is not in this source; the
server receives it as an arbitrary function.
-/

namespace BulkFhir.TestHelpers

/-- `FHIRStoreTestResource`. -/
structure FHIRStoreTestResource where
  resourceID : String
  resourceType : String
  data : Bytes
  deriving DecidableEq, Repr

/-- The path `validateURLAndMatchResource` expects for a resource:
`/v1/projects/%s/locations/%s/datasets/%s/fhirStores/%s/fhir/%s/%s?`. -/
def expectedPath (projectID location datasetID fhirStoreID : String) (r : FHIRStoreTestResource) :
    String :=
  "/v1/projects/" ++ projectID ++ "/locations/" ++ location ++ "/datasets/" ++ datasetID ++
    "/fhirStores/" ++ fhirStoreID ++ "/fhir/" ++ r.resourceType ++ "/" ++ r.resourceID ++ "?"

/-- The loop of `validateURLAndMatchResource` from index `idx`. -/
def matchLoop (callURL projectID location datasetID fhirStoreID : String) :
    Nat → List FHIRStoreTestResource → Option FHIRStoreTestResource × Nat
  | _, [] => (none, 0)
  | idx, r :: rs =>
      if callURL = expectedPath projectID location datasetID fhirStoreID r then (some r, idx)
      else matchLoop callURL projectID location datasetID fhirStoreID (idx + 1) rs

/-- `validateURLAndMatchResource`: the first expected resource whose path is the URL,
with its index, or `(nil, 0)`. -/
def validateURLAndMatchResource (callURL : String) (expectedResources : List FHIRStoreTestResource)
    (projectID location datasetID fhirStoreID : String) : Option FHIRStoreTestResource × Nat :=
  matchLoop callURL projectID location datasetID fhirStoreID 0 expectedResources

/-- What the handler reads of a request: `req.URL.String()`, `req.Method`, and what
`ioutil.ReadAll(req.Body)` returned. -/
structure StoreRequest where
  url : String
  method : String
  body : Bytes
  readFailed : Bool
  deriving DecidableEq, Repr

/-- A `t.Errorf` call, with its arguments. -/
inductive Failure
  /-- `"FHIR Store Test server received an unexpected request at url: %s"`. -/
  | unexpectedRequest (url : String)
  /-- `"FHIR Store test server unexpected HTTP method. got: %v, want: %v"`, want `PUT`. -/
  | unexpectedMethod (got : String)
  /-- `"FHIR Store test server error reading body content for URL: %s"`. -/
  | unreadableBody (url : String)
  /-- `"FHIR store test server received unexpected body content. got: %s, want: %s"`. -/
  | unexpectedBody (got want : Bytes)
  /-- `"FHIR store test server error. Expected resource was not uploaded. got: nil, want: %v"`. -/
  | notUploaded (want : FHIRStoreTestResource)
  deriving DecidableEq, Repr

/-- The arguments of `FHIRStoreServer`, and the `NormalizeJSON` it calls. -/
structure Server where
  expectedResources : List FHIRStoreTestResource
  projectID : String
  location : String
  datasetID : String
  fhirStoreID : String
  normalizeJSON : Bytes → Bytes

/-- `expectedResourceWasUploaded`, and the failures logged on `t`. -/
structure ServerState where
  uploaded : List Bool
  log : List Failure

namespace Server

variable (srv : Server)

/-- The state `FHIRStoreServer` starts the server in. -/
def initial : ServerState := ⟨List.replicate srv.expectedResources.length false, []⟩

/-- The failures the handler logs for a request matched to `r`. -/
def checks (req : StoreRequest) (r : FHIRStoreTestResource) : List Failure :=
  (if req.method ≠ "PUT" then [.unexpectedMethod req.method] else []) ++
    (if req.readFailed then [.unreadableBody req.url] else []) ++
    (if srv.normalizeJSON req.body ≠ srv.normalizeJSON r.data then [.unexpectedBody req.body r.data]
      else [])

/-- The handler: its status code, and the state after it. -/
def handle (req : StoreRequest) (st : ServerState) : Int × ServerState :=
  match validateURLAndMatchResource req.url srv.expectedResources srv.projectID srv.location
      srv.datasetID srv.fhirStoreID with
  | (none, _) => (500, { st with log := st.log ++ [.unexpectedRequest req.url] })
  | (some r, idx) => (200, ⟨st.uploaded.set idx true, st.log ++ srv.checks req r⟩)

/-- Requests handled one after another, in the order they took the mutex. -/
def serve : List StoreRequest → ServerState → List Int × ServerState
  | [], st => ([], st)
  | req :: reqs, st =>
      ((srv.handle req st).1 :: (serve reqs (srv.handle req st).2).1, (serve reqs (srv.handle req st).2).2)

/-- The loop of the cleanup: a failure for every resource not flagged as uploaded. -/
def missing (st : ServerState) : List Failure :=
  (srv.expectedResources.zip st.uploaded).filterMap fun x => if x.2 then none else some (.notUploaded x.1)

/-- The test's log once the cleanup has run. -/
def cleanup (st : ServerState) : List Failure := st.log ++ srv.missing st

/-- The index of the first expected resource whose path is `url`. -/
def matchIndex (url : String) : Option Nat :=
  srv.expectedResources.findIdx? fun r =>
    decide (url = expectedPath srv.projectID srv.location srv.datasetID srv.fhirStoreID r)

/-- The status code the handler writes for a request. -/
def status (req : StoreRequest) : Int := if (srv.matchIndex req.url).isSome then 200 else 500

/-- The failures the handler logs for a request. -/
def failures (req : StoreRequest) : List Failure :=
  match validateURLAndMatchResource req.url srv.expectedResources srv.projectID srv.location
      srv.datasetID srv.fhirStoreID with
  | (none, _) => [.unexpectedRequest req.url]
  | (some r, _) => srv.checks req r

end Server

/-! ## The first match -/

theorem matchLoop_eq (callURL projectID location datasetID fhirStoreID : String) (idx : Nat)
    (rs : List FHIRStoreTestResource) :
    matchLoop callURL projectID location datasetID fhirStoreID idx rs =
      match rs.findIdx? (fun r => decide (callURL = expectedPath projectID location datasetID fhirStoreID r)) with
      | some i => (rs[i]?, idx + i)
      | none => (none, 0) := by
  induction rs generalizing idx with
  | nil => rfl
  | cons r rs ih =>
      by_cases h : callURL = expectedPath projectID location datasetID fhirStoreID r
      · simp [matchLoop, h]
      · simp only [matchLoop, h, if_false, List.findIdx?_cons, decide_False, Bool.false_eq_true,
          List.findIdx?_start_succ, ih]
        cases List.findIdx? (fun r => decide (callURL = expectedPath projectID location datasetID fhirStoreID r)) rs with
        | none => rfl
        | some i => simp [Nat.add_assoc, Nat.add_comm 1]

theorem findIdx?_path_eq_some_iff {callURL projectID location datasetID fhirStoreID : String}
    {rs : List FHIRStoreTestResource} {i : Nat} :
    rs.findIdx? (fun r => decide (callURL = expectedPath projectID location datasetID fhirStoreID r)) = some i ↔
      ∃ r, rs[i]? = some r ∧ expectedPath projectID location datasetID fhirStoreID r = callURL ∧
        ∀ j < i, ∀ r', rs[j]? = some r' → expectedPath projectID location datasetID fhirStoreID r' ≠ callURL := by
  rw [List.findIdx?_eq_some_iff_getElem]
  constructor
  · rintro ⟨hi, hp, hbefore⟩
    refine ⟨rs[i], List.getElem?_eq_getElem hi, by simpa [eq_comm] using hp, fun j hj r' hr' => ?_⟩
    obtain ⟨hj', rfl⟩ := List.getElem?_eq_some_iff.1 hr'
    simpa [eq_comm] using hbefore j hj
  · rintro ⟨r, hr, hp, hbefore⟩
    obtain ⟨hi, rfl⟩ := List.getElem?_eq_some_iff.1 hr
    refine ⟨hi, by simpa [eq_comm] using hp, fun j hj => ?_⟩
    simpa [eq_comm] using hbefore j hj _ (List.getElem?_eq_getElem _)

/-- `validateURLAndMatchResource` returns the first expected resource whose path is the
URL, with its index; and `(nil, 0)` exactly when no expected resource has that path. -/
theorem validateURLAndMatchResource_first_match (callURL : String) (rs : List FHIRStoreTestResource)
    (projectID location datasetID fhirStoreID : String) :
    (∀ r i, validateURLAndMatchResource callURL rs projectID location datasetID fhirStoreID = (some r, i) ↔
        rs[i]? = some r ∧ expectedPath projectID location datasetID fhirStoreID r = callURL ∧
          ∀ j < i, ∀ r', rs[j]? = some r' → expectedPath projectID location datasetID fhirStoreID r' ≠ callURL) ∧
      (validateURLAndMatchResource callURL rs projectID location datasetID fhirStoreID = (none, 0) ↔
        ∀ r ∈ rs, expectedPath projectID location datasetID fhirStoreID r ≠ callURL) := by
  rw [validateURLAndMatchResource, matchLoop_eq]
  cases h : rs.findIdx? (fun r => decide (callURL = expectedPath projectID location datasetID fhirStoreID r)) with
  | none =>
      have hno := List.findIdx?_eq_none_iff.1 h
      refine ⟨fun r i => ⟨fun h' => (by cases h'), fun ⟨hr, hp, _⟩ => ?_⟩, fun _ r hr => ?_, fun _ => rfl⟩
      · simpa [hp] using hno r (List.getElem?_mem hr)
      · simpa [eq_comm] using hno r hr
  | some k =>
      obtain ⟨r₀, hr₀, hp₀, -⟩ := findIdx?_path_eq_some_iff.1 h
      refine ⟨fun r i => ?_, ⟨fun h' => by simp [hr₀] at h', fun hall => absurd hp₀ (hall r₀ (List.getElem?_mem hr₀))⟩⟩
      simp only [Nat.zero_add, Prod.mk.injEq]
      constructor
      · rintro ⟨hr, rfl⟩
        obtain ⟨r', hr', hp, hbefore⟩ := findIdx?_path_eq_some_iff.1 h
        cases hr.symm.trans hr'
        exact ⟨hr, hp, hbefore⟩
      · rintro ⟨hr, hp, hbefore⟩
        cases h.symm.trans (findIdx?_path_eq_some_iff.2 ⟨r, hr, hp, hbefore⟩)
        exact ⟨hr, rfl⟩

/-! ## The handler and a run of requests -/

namespace Server

variable (srv : Server)

theorem validate_eq_matchIndex (url : String) :
    validateURLAndMatchResource url srv.expectedResources srv.projectID srv.location srv.datasetID
        srv.fhirStoreID =
      match srv.matchIndex url with
      | some i => (srv.expectedResources[i]?, i)
      | none => (none, 0) := by
  rw [validateURLAndMatchResource, matchLoop_eq, matchIndex]
  cases srv.expectedResources.findIdx? _ <;> simp

theorem handle_eq (req : StoreRequest) (st : ServerState) :
    srv.handle req st =
      (srv.status req, ⟨match srv.matchIndex req.url with
        | some i => st.uploaded.set i true
        | none => st.uploaded, st.log ++ srv.failures req⟩) := by
  unfold handle status failures
  rw [validate_eq_matchIndex]
  cases h : srv.matchIndex req.url with
  | none => rfl
  | some i =>
      obtain ⟨r, hr, -⟩ := findIdx?_path_eq_some_iff.1 h
      simp [hr]

theorem handle_uploaded_getElem? (req : StoreRequest) (st : ServerState) (k : Nat) :
    (srv.handle req st).2.uploaded[k]? =
      st.uploaded[k]?.map (· || srv.matchIndex req.url == some k) := by
  rw [handle_eq]
  cases srv.matchIndex req.url with
  | none => simp
  | some i =>
      rw [List.getElem?_set']
      by_cases hik : i = k
      · subst hik; cases st.uploaded[i]? <;> simp
      · have hb : (i == k) = false := by simpa using hik
        simp [hik, hb]

/-- Handling requests one after another answers each by its own status code, logs each
one's failures in turn, and flags resource `k` exactly when it was flagged before or
some request's first match is `k`. -/
theorem serve_spec (reqs : List StoreRequest) (st : ServerState) :
    (srv.serve reqs st).1 = reqs.map srv.status ∧
      (srv.serve reqs st).2.log = st.log ++ reqs.flatMap srv.failures ∧
      ∀ k, (srv.serve reqs st).2.uploaded[k]? =
        st.uploaded[k]?.map (· || reqs.any fun q => srv.matchIndex q.url == some k) := by
  induction reqs generalizing st with
  | nil => simp [serve]
  | cons req reqs ih =>
      obtain ⟨h1, h2, h3⟩ := ih (srv.handle req st).2
      refine ⟨?_, ?_, fun k => ?_⟩
      · rw [serve, h1, List.map_cons, handle_eq]
      · rw [serve, h2, List.flatMap_cons, handle_eq, List.append_assoc]
      rw [serve, h3, handle_uploaded_getElem?, Option.map_map]
      simp [Function.comp_def, Bool.or_assoc]

end Server

/-! ## What the cleanup reports -/

theorem Server.serve_uploaded_length (srv : Server) (reqs : List StoreRequest) (st : ServerState) :
    (srv.serve reqs st).2.uploaded.length = st.uploaded.length := by
  induction reqs generalizing st with
  | nil => rfl
  | cons req reqs ih =>
      rw [Server.serve, ih, Server.handle_eq]
      cases srv.matchIndex req.url <;> simp

theorem filterMap_zip_flags (rs : List FHIRStoreTestResource) (u : List Bool) (i : Nat)
    (f : Nat → Bool) (hlen : u.length = rs.length) (hu : ∀ k < rs.length, u[k]? = some (f (i + k))) :
    (rs.zip u).filterMap (fun x => if x.2 then none else some (Failure.notUploaded x.1)) =
      ((rs.enumFrom i).filter fun x => !f x.1).map fun x => .notUploaded x.2 := by
  induction rs generalizing u i with
  | nil => simp
  | cons r rs ih =>
      obtain _ | ⟨b, u⟩ := u
      · cases hlen
      have hb : b = f i := by simpa using hu 0 (by simp)
      have hrest := ih u (i + 1) (by simpa using hlen) fun k hk => by
        simpa [Nat.add_assoc, Nat.add_comm 1] using hu (k + 1) (by simp; omega)
      subst hb
      cases h : f i <;> simp [h, hrest]

/-- On a fresh server, after any requests: resource `k` is flagged exactly when some
request's first match is `k`; the cleanup reports, in order, every resource that is the
first match of no request; and a resource whose path repeats that of an earlier one is
never flagged, so it is reported missing however often it was uploaded. -/
theorem fhirStoreServer_cleanup (srv : Server) (reqs : List StoreRequest) :
    (∀ k, (srv.serve reqs srv.initial).2.uploaded[k]? =
        if k < srv.expectedResources.length then
          some (reqs.any fun q => srv.matchIndex q.url == some k)
        else none) ∧
      srv.missing (srv.serve reqs srv.initial).2 =
        ((srv.expectedResources.enum.filter fun x =>
          !(reqs.any fun q => srv.matchIndex q.url == some x.1)).map fun x => .notUploaded x.2) ∧
      ∀ (j k : Nat) rj rk, j < k → srv.expectedResources[j]? = some rj → srv.expectedResources[k]? = some rk →
        expectedPath srv.projectID srv.location srv.datasetID srv.fhirStoreID rj =
          expectedPath srv.projectID srv.location srv.datasetID srv.fhirStoreID rk →
        (srv.serve reqs srv.initial).2.uploaded[k]? = some false := by
  have hflags : ∀ k, (srv.serve reqs srv.initial).2.uploaded[k]? =
      if k < srv.expectedResources.length then
        some (reqs.any fun q => srv.matchIndex q.url == some k)
      else none := fun k => by
    rw [(srv.serve_spec reqs srv.initial).2.2 k, Server.initial, List.getElem?_replicate]
    split_ifs <;> simp
  refine ⟨hflags, ?_, fun j k rj rk hjk hj hk hpath => ?_⟩
  · rw [Server.missing, List.enum_eq_enumFrom]
    refine filterMap_zip_flags _ (srv.serve reqs srv.initial).2.uploaded 0
      (fun k => reqs.any fun q => srv.matchIndex q.url == some k) ?_ fun k hk => by
        simpa [hk] using hflags k
    rw [srv.serve_uploaded_length, Server.initial, List.length_replicate]
  · rw [hflags k, if_pos (List.getElem?_eq_some_iff.1 hk).1]
    simp only [Option.some.injEq, List.any_eq_false, beq_iff_eq]
    intro q _ hq
    obtain ⟨r, hr, hp, hbefore⟩ := findIdx?_path_eq_some_iff.1 hq
    cases hk.symm.trans hr
    exact hbefore j hjk rj hj (hpath.trans hp)

/-! ## What the handler ignores -/

/-- The handler's answers and flags depend on the requests' URLs alone: a request with
the wrong method, an unreadable body or the wrong content is answered 200 and flags its
resource as uploaded like a correct one; only the log tells them apart. -/
theorem serve_urls_only (srv : Server) {reqs reqs' : List StoreRequest}
    (h : reqs.map (·.url) = reqs'.map (·.url)) (st : ServerState) :
    (srv.serve reqs st).1 = (srv.serve reqs' st).1 ∧
      (srv.serve reqs st).2.uploaded = (srv.serve reqs' st).2.uploaded := by
  obtain ⟨c₁, -, u₁⟩ := srv.serve_spec reqs st
  obtain ⟨c₂, -, u₂⟩ := srv.serve_spec reqs' st
  have hstatus : srv.status = (fun u => if (srv.matchIndex u).isSome then 200 else 500) ∘ (·.url) :=
    rfl
  refine ⟨by rw [c₁, c₂, hstatus, ← List.map_map, ← List.map_map, h], List.ext_getElem? fun k => ?_⟩
  have hany : ∀ l : List StoreRequest, (l.any fun q => srv.matchIndex q.url == some k) =
      (l.map (·.url)).any fun u => srv.matchIndex u == some k := fun l => by
    induction l with
    | nil => rfl
    | cons q l ih => simp only [List.any_cons, List.map_cons, ih]
  rw [u₁, u₂, hany reqs, hany reqs', h]

theorem serve_urls_only_wrong_upload :
    let srv : Server := ⟨[⟨"1", "Patient", [1]⟩], "p", "l", "d", "s", id⟩
    let url := "/v1/projects/p/locations/l/datasets/d/fhirStores/s/fhir/Patient/1?"
    [(⟨url, "PUT", [1], false⟩ : StoreRequest)].map (·.url) =
        [(⟨url, "POST", [2], false⟩ : StoreRequest)].map (·.url) ∧
      (srv.serve [⟨url, "PUT", [1], false⟩] srv.initial).1 =
        (srv.serve [⟨url, "POST", [2], false⟩] srv.initial).1 ∧
      (srv.serve [⟨url, "PUT", [1], false⟩] srv.initial).2.uploaded =
        (srv.serve [⟨url, "POST", [2], false⟩] srv.initial).2.uploaded :=
  ⟨rfl, serve_urls_only _ rfl _⟩

/-! ## Any interleaving -/

/-- Handlers share only the flag array, and each sets one flag to true: handling the same
requests in any other order leaves the same flags, logs the same failures and answers
the same status codes, each up to order. -/
theorem serve_perm (srv : Server) {reqs reqs' : List StoreRequest} (h : reqs.Perm reqs')
    (st : ServerState) :
    (srv.serve reqs st).2.uploaded = (srv.serve reqs' st).2.uploaded ∧
      (srv.serve reqs st).2.log.Perm (srv.serve reqs' st).2.log ∧
      (srv.serve reqs st).1.Perm (srv.serve reqs' st).1 := by
  obtain ⟨c₁, l₁, u₁⟩ := srv.serve_spec reqs st
  obtain ⟨c₂, l₂, u₂⟩ := srv.serve_spec reqs' st
  have hany : ∀ k, (reqs.any fun q => srv.matchIndex q.url == some k) =
      reqs'.any fun q => srv.matchIndex q.url == some k := fun k => by
    rw [Bool.eq_iff_iff, List.any_eq_true, List.any_eq_true]
    exact ⟨fun ⟨q, hq, e⟩ => ⟨q, h.mem_iff.1 hq, e⟩, fun ⟨q, hq, e⟩ => ⟨q, h.mem_iff.2 hq, e⟩⟩
  refine ⟨List.ext_getElem? fun k => by rw [u₁, u₂, hany], ?_, ?_⟩
  · rw [l₁, l₂]; exact (h.flatMap_right _).append_left _
  · rw [c₁, c₂]; exact h.map _

theorem serve_perm_swap :
    let srv : Server := ⟨[⟨"1", "Patient", []⟩], "p", "l", "d", "s", id⟩
    let q₁ : StoreRequest :=
      ⟨"/v1/projects/p/locations/l/datasets/d/fhirStores/s/fhir/Patient/1?", "PUT", [], false⟩
    let q₂ : StoreRequest := ⟨"/v1/projects/p/locations/l/datasets/d/fhirStores/s/fhir/Patient/2?",
      "POST", [], false⟩
    [q₁, q₂].Perm [q₂, q₁] ∧
      (srv.serve [q₁, q₂] srv.initial).2.uploaded = (srv.serve [q₂, q₁] srv.initial).2.uploaded ∧
      (srv.serve [q₁, q₂] srv.initial).2.log.Perm (srv.serve [q₂, q₁] srv.initial).2.log ∧
      (srv.serve [q₁, q₂] srv.initial).1.Perm (srv.serve [q₂, q₁] srv.initial).1 :=
  ⟨List.Perm.swap _ _ _, serve_perm _ (List.Perm.swap _ _ _) _⟩

end BulkFhir.TestHelpers
