import BulkFhir.Client

/-! # Job status

`Client.JobStatus`: a 202 answer reports progress through one `X-Progress`
header, a 200 answer carries the result URLs grouped by resource type. The
grouping is a fold over the server's `output` list into a Go map; here the map
is an association list whose keys stay distinct (`ResultMap.keys_set_nodup`), read
through `ResultMap.get` exactly as `m[r]` reads a Go map.
-/

namespace BulkFhir

/-! ## The progress header -/

/-- `progressREGEX` (`\(([0-9]+?)%\)`) matched at the start of `cs`: the captured
digits. The lazy `+?` stops at the first `%`, and digits are not `%`, so the
capture is the whole digit run after `(`. -/
def progressAt : List Char → Option (List Char)
  | '(' :: rest =>
      match rest.dropWhile Char.isDigit with
      | '%' :: ')' :: _ =>
          if (rest.takeWhile Char.isDigit).isEmpty then none else some (rest.takeWhile Char.isDigit)
      | _ => none
  | _ => none

/-- `progressREGEX.FindStringSubmatch(s)[1]`: the capture of the leftmost match. -/
def findProgress : List Char → Option (List Char)
  | [] => none
  | c :: cs =>
      match progressAt (c :: cs) with
      | some ds => some ds
      | none => findProgress cs

theorem progressAt_eq_some_iff (l ds : List Char) :
    progressAt l = some ds ↔
      ds ≠ [] ∧ (∀ d ∈ ds, d.isDigit) ∧ ∃ post, l = '(' :: ds ++ '%' :: ')' :: post := by
  constructor
  · intro h
    unfold progressAt at h
    split at h
    · rename_i rest
      split at h
      · rename_i post hd
        split_ifs at h with he
        cases h
        refine ⟨by simpa using he, fun d hd => List.mem_takeWhile_imp hd, post, ?_⟩
        rw [← hd, List.cons_append, List.takeWhile_append_dropWhile]
      · cases h
    · cases h
  · rintro ⟨hne, hdig, post, rfl⟩
    have htake : (ds ++ '%' :: ')' :: post).takeWhile Char.isDigit = ds := by
      rw [List.takeWhile_append_of_pos hdig]; simp [List.takeWhile]
    have hdrop : (ds ++ '%' :: ')' :: post).dropWhile Char.isDigit = '%' :: ')' :: post := by
      rw [List.dropWhile_append_of_pos hdig]; simp [List.dropWhile]
    simp [progressAt, htake, hdrop, hne]

theorem findProgress_eq_some_iff (l ds : List Char) :
    findProgress l = some ds ↔
      ∃ k, progressAt (l.drop k) = some ds ∧ ∀ j < k, progressAt (l.drop j) = none := by
  induction l with
  | nil => simp [findProgress, progressAt]
  | cons c cs ih =>
      cases h0 : progressAt (c :: cs) with
      | some ds' =>
          simp only [findProgress, h0, Option.some.injEq]
          constructor
          · rintro rfl; exact ⟨0, h0, by simp⟩
          · rintro ⟨k, hk, hbefore⟩
            cases k with
            | zero => simpa [h0] using hk
            | succ k => cases (hbefore 0 (Nat.succ_pos k)).symm.trans h0
      | none =>
          simp only [findProgress, h0, ih]
          constructor
          · rintro ⟨k, hk, hbefore⟩
            refine ⟨k + 1, hk, fun j hj => ?_⟩
            cases j with
            | zero => exact h0
            | succ j => exact hbefore j (by omega)
          · rintro ⟨k, hk, hbefore⟩
            cases k with
            | zero => simp [h0] at hk
            | succ k => exact ⟨k, hk, fun j hj => hbefore (j + 1) (by omega)⟩

/-- An occurrence of `progressREGEX` in `l` after the prefix `pre`, capturing `ds`. -/
def ProgressMatch (l pre ds : List Char) : Prop :=
  ds ≠ [] ∧ (∀ d ∈ ds, d.isDigit) ∧ ∃ post, l = pre ++ ('(' :: ds ++ '%' :: ')' :: post)

theorem progressAt_drop_eq_some_iff (l ds : List Char) (k : Nat) :
    progressAt (l.drop k) = some ds ↔ ∃ pre, pre.length = k ∧ ProgressMatch l pre ds := by
  rw [progressAt_eq_some_iff]
  constructor
  · rintro ⟨hne, hdig, post, hpost⟩
    have hk : k ≤ l.length := by
      by_contra h
      rw [List.drop_eq_nil_of_le (by omega)] at hpost
      cases hpost
    refine ⟨l.take k, by simp; omega, hne, hdig, post, ?_⟩
    rw [← hpost, List.take_append_drop]
  · rintro ⟨pre, rfl, hne, hdig, post, rfl⟩
    exact ⟨hne, hdig, post, List.drop_left _ _⟩

/-- `FindStringSubmatch(s)[1]` is the capture of the leftmost occurrence of the pattern. -/
theorem findProgress_eq_some_iff_leftmost (l ds : List Char) :
    findProgress l = some ds ↔
      ∃ pre, ProgressMatch l pre ds ∧ ∀ pre' ds', ProgressMatch l pre' ds' → pre.length ≤ pre'.length := by
  rw [findProgress_eq_some_iff]
  constructor
  · rintro ⟨k, hk, hbefore⟩
    obtain ⟨pre, rfl, hm⟩ := (progressAt_drop_eq_some_iff l ds k).1 hk
    refine ⟨pre, hm, fun pre' ds' hm' => Nat.le_of_not_lt fun hlt => ?_⟩
    have h := hbefore pre'.length hlt
    rw [(progressAt_drop_eq_some_iff l ds' _).2 ⟨pre', rfl, hm'⟩] at h
    cases h
  · rintro ⟨pre, hm, hleast⟩
    refine ⟨pre.length, (progressAt_drop_eq_some_iff l ds _).2 ⟨pre, rfl, hm⟩, fun j hj => ?_⟩
    cases h : progressAt (l.drop j) with
    | none => rfl
    | some ds' =>
        obtain ⟨pre', rfl, hm'⟩ := (progressAt_drop_eq_some_iff l ds' j).1 h
        exact absurd (hleast pre' ds' hm') (by omega)

/-- The largest Go `int`. -/
def maxInt : Int := 9223372036854775807

/-- `strconv.Atoi` on a non-empty run of ASCII digits: only a value past `maxInt`
fails. -/
def atoi (ds : List Char) : Except Error Int :=
  if (digitsValue ds : Int) ≤ maxInt then .ok (digitsValue ds)
  else .error (.plain ("strconv.Atoi: parsing \"" ++ String.mk ds ++ "\": value out of range"))

theorem atoi_eq_ok {ds : List Char} {n : Int} (h : atoi ds = .ok n) :
    n = digitsValue ds ∧ (digitsValue ds : Int) ≤ maxInt := by
  unfold atoi at h
  split_ifs at h with hle
  cases h
  exact ⟨rfl, hle⟩

theorem atoi_eq_error {ds : List Char} {e : Error} (h : atoi ds = .error e) : ∃ s, e = .plain s := by
  unfold atoi at h
  split_ifs at h
  cases h
  exact ⟨_, rfl⟩

/-! ## The result map -/

/-- `map[ResourceType][]string`. -/
abbrev ResultMap := List (ResourceType × List String)

/-- `m[r]`; an absent key reads as `nil`. -/
def ResultMap.get : ResultMap → ResourceType → List String
  | [], _ => []
  | (k, v) :: m, r => if k = r then v else get m r

/-- `m[r] = v`. -/
def ResultMap.set : ResultMap → ResourceType → List String → ResultMap
  | [], r, v => [(r, v)]
  | (k, w) :: m, r, v => if k = r then (r, v) :: m else (k, w) :: set m r v

/-- The keys of the map. -/
def ResultMap.keys (m : ResultMap) : List ResourceType := m.map (·.1)

namespace ResultMap

theorem get_set (m : ResultMap) (r r' : ResourceType) (v : List String) :
    (m.set r v).get r' = if r = r' then v else m.get r' := by
  induction m with
  | nil => simp [set, get]
  | cons p m ih =>
      obtain ⟨k, w⟩ := p
      by_cases hk : k = r
      · subst hk; by_cases hr : k = r' <;> simp [set, get, hr]
      · by_cases hr : k = r'
        · subst hr; simp [set, get, hk, Ne.symm hk]
        · simp [set, get, hk, hr, ih]

theorem mem_keys_set (m : ResultMap) (r r' : ResourceType) (v : List String) :
    r' ∈ (m.set r v).keys ↔ r' ∈ m.keys ∨ r' = r := by
  induction m with
  | nil => simp [set, keys]
  | cons p m ih =>
      obtain ⟨k, w⟩ := p
      by_cases hk : k = r
      · subst hk; simp [set, keys, or_comm]
      · simp only [keys] at ih
        simp [set, keys, hk, ih, or_assoc]

theorem keys_set_nodup {m : ResultMap} (h : m.keys.Nodup) (r : ResourceType) (v : List String) :
    (m.set r v).keys.Nodup := by
  induction m with
  | nil => simp [set, keys]
  | cons p m ih =>
      obtain ⟨k, w⟩ := p
      simp only [keys, List.map_cons, List.nodup_cons] at h
      by_cases hk : k = r
      · subst hk; simpa [set, keys] using h
      · have hm := mem_keys_set m r k v
        simp only [keys] at hm ih
        simp [set, keys, hk, hm, Ne.symm hk, ih h.2, h.1]

theorem values_append_perm (m : ResultMap) (r : ResourceType) (u : String) :
    ((m.set r (m.get r ++ [u])).flatMap (·.2)).Perm (m.flatMap (·.2) ++ [u]) := by
  induction m with
  | nil => simp [set, get]
  | cons p m ih =>
      obtain ⟨k, w⟩ := p
      by_cases hk : k = r
      · subst hk
        simpa [set, get, List.append_assoc] using
          (@List.perm_append_comm _ [u] _).append_left w
      · simpa [set, get, hk, List.append_assoc] using ih.append_left w

end ResultMap

/-- `JobStatus`; the defaults are Go's zero value. -/
structure JobStatus where
  isComplete : Bool := false
  percentComplete : Int := 0
  resultURLs : ResultMap := []
  transactionTime : Time := ⟨0⟩
  deriving DecidableEq, Repr

/-- `jobStatusOutput`. -/
structure JobStatusOutput where
  resourceType : String
  url : String
  deriving DecidableEq, Repr

/-- `jobStatusResponse`. -/
structure JobStatusResponse where
  output : List JobStatusOutput
  transactionTime : String
  deriving DecidableEq, Repr

/-! ## The call -/

/-- The 202 branch: exactly one `X-Progress` value, holding `(<digits>%)`. -/
def pendingStatus (header : Header) : JobStatus × Option Error :=
  match header.values "X-Progress" with
  | [v] =>
      match findProgress v.toList with
      | none => ({}, some (.sentinel .unableToParseProgress))
      | some ds =>
          match atoi ds with
          | .error e => ({}, some e)
          | .ok progress => ({ percentComplete := progress }, none)
  | p => ({}, some (.wrapped ("one X-Progress header value expected. Instead got: " ++
      toString p.length ++ " ") .unexpectedNumberOfXProgress))

/-- A 202 answer: the progress is the number in the leftmost `(<digits>%)` of the only
`X-Progress` value, and every other header set gives an error and the zero status. -/
theorem pendingStatus_spec (header : Header) :
    (∃ v ds, header.values "X-Progress" = [v] ∧ findProgress v.toList = some ds ∧
        (digitsValue ds : Int) ≤ maxInt ∧
        pendingStatus header = ({ percentComplete := digitsValue ds }, none)) ∨
      ∃ e, pendingStatus header = ({}, some e) := by
  unfold pendingStatus
  split
  · rename_i v hv
    split
    · exact .inr ⟨_, rfl⟩
    · rename_i ds hds
      split
      · exact .inr ⟨_, rfl⟩
      · rename_i n hn
        obtain ⟨rfl, hle⟩ := atoi_eq_ok hn
        exact .inl ⟨v, ds, hv, hds, hle, rfl⟩
  · exact .inr ⟨_, rfl⟩

/-- The loop `for _, item := range jr.Output`, appending each URL under its type. -/
def collectResultURLs (m : ResultMap) : List JobStatusOutput → Except Error ResultMap
  | [] => .ok m
  | item :: items =>
      match resourceTypeFromAPI item.resourceType with
      | .error e => .error e
      | .ok r => collectResultURLs (m.set r (m.get r ++ [item.url])) items

/-- The 200 branch. A body that does not decode is returned with the
`IsComplete = true` status built before decoding. -/
def completeStatus (lib : Lib) (body : Except String JobStatusResponse) :
    JobStatus × Option Error :=
  let jobStatus : JobStatus := { isComplete := true }
  match body with
  | .error e => (jobStatus, some (.plain e))
  | .ok jr =>
      match collectResultURLs [] jr.output with
      | .error e => ({}, some e)
      | .ok m =>
          match lib.parseFHIRInstant jr.transactionTime with
          | .error e => ({}, some (.plain e))
          | .ok t => ({ jobStatus with resultURLs := m, transactionTime := t }, none)

/-- The `switch resp.StatusCode` of `JobStatus`. -/
def statusAnswer (lib : Lib) (resp : Response (Except String JobStatusResponse)) :
    JobStatus × Option Error :=
  if resp.statusCode = 202 then pendingStatus resp.header
  else if resp.statusCode = 200 then completeStatus lib resp.body
  else if resp.statusCode = 401 then ({}, some errorUnauthorized)
  else ({}, some (unexpectedStatusError resp.statusCode))

/-- `JobStatus`. A failing `httpClient.Do` is answered with the zero status and a
`nil` error. -/
def Client.jobStatus (lib : Lib) (c : Client) (jobStatusURL : String)
    (ex : Exchange (Except String JobStatusResponse)) : Outcome JobStatus :=
  if c.token = "" then ⟨{}, some errorUnauthorized, c, none⟩
  else
    match lib.urlError jobStatusURL with
    | some e => ⟨{}, some (.plain e), c, none⟩
    | none =>
        let req : Request := { method := "GET", url := jobStatusURL, header := [bearer c.token] }
        match ex with
        | .error _ => ⟨{}, none, c, some req⟩
        | .ok resp => ⟨(statusAnswer lib resp).1, (statusAnswer lib resp).2, c, some req⟩

theorem jobStatus_client (lib : Lib) (c : Client) (url : String)
    (ex : Exchange (Except String JobStatusResponse)) : (c.jobStatus lib url ex).client = c := by
  unfold Client.jobStatus
  split_ifs <;> repeat' split
  all_goals rfl

theorem jobStatus_of_token_empty (lib : Lib) {c : Client} (h : c.token = "") (url : String)
    (ex : Exchange (Except String JobStatusResponse)) :
    (c.jobStatus lib url ex).err = some errorUnauthorized ∧ (c.jobStatus lib url ex).sent = none := by
  simp [Client.jobStatus, h]

/-- The answered path of `JobStatus`: with a token and a URL that parses, the
response alone decides the results. -/
theorem jobStatus_answered (lib : Lib) {c : Client} {url : String}
    (htok : c.token ≠ "") (hurl : lib.urlError url = none)
    (resp : Response (Except String JobStatusResponse)) :
    c.jobStatus lib url (.ok resp) =
      ⟨(statusAnswer lib resp).1, (statusAnswer lib resp).2, c,
        some { method := "GET", url := url, header := [bearer c.token] }⟩ := by
  simp [Client.jobStatus, htok, hurl]

/-! ## Grouping the result URLs -/

theorem collectResultURLs_ok {m : ResultMap} {items : List JobStatusOutput}
    (h : ∀ item ∈ items, ∃ r, resourceTypeFromAPI item.resourceType = .ok r) :
    ∃ m', collectResultURLs m items = .ok m' := by
  induction items generalizing m with
  | nil => exact ⟨m, rfl⟩
  | cons item items ih =>
      obtain ⟨r, hr⟩ := h item (List.mem_cons_self _ _)
      simpa [collectResultURLs, hr] using ih (fun i hi => h i (List.mem_cons_of_mem _ hi))

theorem collectResultURLs_error {m : ResultMap} {items : List JobStatusOutput}
    (h : ∃ item ∈ items, ∃ e, resourceTypeFromAPI item.resourceType = .error e) :
    ∃ e, collectResultURLs m items = .error e := by
  induction items generalizing m with
  | nil => simp at h
  | cons item items ih =>
      cases hr : resourceTypeFromAPI item.resourceType with
      | error e => exact ⟨e, by simp [collectResultURLs, hr]⟩
      | ok r =>
          obtain ⟨i, hi, e, he⟩ := h
          rcases List.mem_cons.1 hi with rfl | hi
          · simp [hr] at he
          · simpa [collectResultURLs, hr] using ih ⟨i, hi, e, he⟩

theorem collectResultURLs_eq_error {m : ResultMap} {items : List JobStatusOutput} {e : Error}
    (h : collectResultURLs m items = .error e) : e = .plain "not a valid ResourceType" := by
  induction items generalizing m with
  | nil => cases h
  | cons item items ih =>
      unfold collectResultURLs at h
      split at h
      · cases h; exact resourceTypeFromAPI_eq_error ‹_›
      · exact ih h

section Collected

variable {m m' : ResultMap} {items : List JobStatusOutput}

theorem get_collectResultURLs (h : collectResultURLs m items = .ok m') (r : ResourceType) :
    m'.get r = m.get r ++ (items.filter fun item =>
      (resourceTypeFromAPI item.resourceType).toOption = some r).map (·.url) := by
  induction items generalizing m with
  | nil => cases h; simp
  | cons item items ih =>
      cases hr : resourceTypeFromAPI item.resourceType with
      | error e => simp [collectResultURLs, hr] at h
      | ok r₀ =>
          simp only [collectResultURLs, hr] at h
          rw [ih h, ResultMap.get_set]
          by_cases h0 : r₀ = r
          · subst h0; simp [hr, List.filter_cons, Except.toOption]
          · simp [hr, h0, List.filter_cons, Except.toOption]

theorem mem_keys_collectResultURLs (h : collectResultURLs m items = .ok m') (r : ResourceType) :
    r ∈ m'.keys ↔ r ∈ m.keys ∨
      ∃ item ∈ items, (resourceTypeFromAPI item.resourceType).toOption = some r := by
  induction items generalizing m with
  | nil => cases h; simp
  | cons item items ih =>
      cases hr : resourceTypeFromAPI item.resourceType with
      | error e => simp [collectResultURLs, hr] at h
      | ok r₀ =>
          simp only [collectResultURLs, hr] at h
          rw [ih h, ResultMap.mem_keys_set]
          simp [hr, Except.toOption, or_and_right, exists_or, eq_comm, or_assoc]

theorem keys_nodup_collectResultURLs (h : collectResultURLs m items = .ok m')
    (hm : m.keys.Nodup) : m'.keys.Nodup := by
  induction items generalizing m with
  | nil => cases h; exact hm
  | cons item items ih =>
      cases hr : resourceTypeFromAPI item.resourceType with
      | error e => simp [collectResultURLs, hr] at h
      | ok r₀ =>
          simp only [collectResultURLs, hr] at h
          exact ih h (ResultMap.keys_set_nodup hm _ _)

/-- The fold neither loses nor duplicates a URL. -/
theorem values_collectResultURLs (h : collectResultURLs m items = .ok m') :
    (m'.flatMap (·.2)).Perm (m.flatMap (·.2) ++ items.map (·.url)) := by
  induction items generalizing m with
  | nil => cases h; simp
  | cons item items ih =>
      cases hr : resourceTypeFromAPI item.resourceType with
      | error e => simp [collectResultURLs, hr] at h
      | ok r₀ =>
          simp only [collectResultURLs, hr] at h
          simpa using (ih h).trans ((ResultMap.values_append_perm m r₀ item.url).append_right _)

end Collected

/-- A 200 answer whose output types are all known is grouped by type: the keys are
the types named, each URL sits under its own type in the server's order, and no URL
is lost or repeated. One unknown type, anywhere in the list, fails the whole call
with the zero status. -/
theorem jobStatus_groups_result_urls (lib : Lib) (c : Client) (url : String) (header : Header)
    (L : List JobStatusOutput) (tt : String) (t : Time)
    (htok : c.token ≠ "") (hurl : lib.urlError url = none)
    (htime : lib.parseFHIRInstant tt = .ok t) :
    let o := c.jobStatus lib url (.ok ⟨200, header, .ok ⟨L, tt⟩⟩)
    ((∀ item ∈ L, ∃ r, resourceTypeFromAPI item.resourceType = .ok r) →
        o.err = none ∧ o.value.isComplete = true ∧ o.value.transactionTime = t ∧
        (∀ r, r ∈ o.value.resultURLs.keys ↔
          ∃ item ∈ L, (resourceTypeFromAPI item.resourceType).toOption = some r) ∧
        o.value.resultURLs.keys.Nodup ∧
        (∀ r, o.value.resultURLs.get r = (L.filter fun item =>
          (resourceTypeFromAPI item.resourceType).toOption = some r).map (·.url)) ∧
        (o.value.resultURLs.flatMap (·.2)).Perm (L.map (·.url))) ∧
      ((∃ item ∈ L, ∃ e, resourceTypeFromAPI item.resourceType = .error e) →
        o.err.isSome ∧ o.value = {}) := by
  have h200 : statusAnswer lib ⟨200, header, .ok ⟨L, tt⟩⟩ = completeStatus lib (.ok ⟨L, tt⟩) := by
    simp [statusAnswer]
  simp only [jobStatus_answered lib htok hurl, h200]
  refine ⟨fun hall => ?_, fun hbad => ?_⟩
  · obtain ⟨m, hm⟩ := @collectResultURLs_ok [] _ hall
    have hc : completeStatus lib (.ok ⟨L, tt⟩) =
        ({ isComplete := true, resultURLs := m, transactionTime := t }, none) := by
      simp [completeStatus, hm, htime]
    rw [hc]
    refine ⟨rfl, rfl, rfl, fun r => ?_, keys_nodup_collectResultURLs hm List.nodup_nil,
      fun r => ?_, by simpa using values_collectResultURLs hm⟩
    · rw [mem_keys_collectResultURLs hm]; simp [ResultMap.keys]
    · rw [get_collectResultURLs hm]; simp [ResultMap.get]
  · obtain ⟨e, he⟩ := @collectResultURLs_error [] _ hbad
    simp [completeStatus, he]

theorem jobStatus_groups_result_urls_example :
    let o := sandboxClient.jobStatus Lib.nanoInstants "https://sandbox.bcda.cms.gov/api/v2/jobs/1"
      (.ok ⟨200, [], .ok ⟨[⟨"Patient", "u1"⟩, ⟨"Coverage", "u2"⟩, ⟨"Patient", "u3"⟩], "1609459200"⟩⟩)
    o.err = none ∧ o.value.resultURLs.get .patient = ["u1", "u3"] :=
  have h := (jobStatus_groups_result_urls Lib.nanoInstants sandboxClient
    "https://sandbox.bcda.cms.gov/api/v2/jobs/1" []
    [⟨"Patient", "u1"⟩, ⟨"Coverage", "u2"⟩, ⟨"Patient", "u3"⟩] "1609459200" ⟨1609459200⟩
    (by decide) rfl (by simp [Lib.nanoInstants]; decide)).1
    (by simp only [List.mem_cons, List.mem_singleton, List.not_mem_nil, or_false]
        rintro _ (rfl | rfl | rfl) <;> exact ⟨_, rfl⟩)
  ⟨h.1, (h.2.2.2.2.2.1 .patient).trans rfl⟩

/-! ## Errors and completion -/

theorem pendingStatus_err_is {header : Header} {e : Error} (h : (pendingStatus header).2 = some e)
    {s : Sentinel} (hs : e.is s = true) :
    s = .unableToParseProgress ∨ s = .unexpectedNumberOfXProgress := by
  unfold pendingStatus at h
  split at h <;> (repeat' split at h) <;> cases h
  · exact .inl (by simpa [eq_comm] using hs)
  · obtain ⟨_, rfl⟩ := atoi_eq_error ‹_›; simp at hs
  · exact .inr (by simpa [eq_comm] using hs)

theorem pendingStatus_isComplete (header : Header) : (pendingStatus header).1.isComplete = false := by
  rcases pendingStatus_spec header with ⟨_, _, _, _, _, h⟩ | ⟨_, h⟩ <;> rw [h]

theorem completeStatus_err_is {lib : Lib} {body : Except String JobStatusResponse} {e : Error}
    (h : (completeStatus lib body).2 = some e) (s : Sentinel) : e.is s = false := by
  unfold completeStatus at h
  (repeat' split at h) <;> cases h
  all_goals try rfl
  rename_i hc; rw [collectResultURLs_eq_error hc]; rfl

theorem completeStatus_isComplete {lib : Lib} {body : Except String JobStatusResponse}
    (h : (completeStatus lib body).1.isComplete = true) :
    (completeStatus lib body).2 = none ∨ ∃ e, body = .error e := by
  cases body with
  | error e => exact .inr ⟨e, rfl⟩
  | ok jr =>
      refine .inl ?_
      unfold completeStatus at h ⊢
      (repeat' split) <;> simp_all

theorem statusAnswer_err_is {lib : Lib} {resp : Response (Except String JobStatusResponse)}
    {e : Error} (h : (statusAnswer lib resp).2 = some e) {s : Sentinel} (hs : e.is s = true) :
    (s = .unauthorized ∧ resp.statusCode = 401) ∨ s = .unableToParseProgress ∨
      s = .unexpectedNumberOfXProgress ∨ s = .unexpectedStatusCode := by
  unfold statusAnswer at h
  split_ifs at h with h202 h200 h401
  · rcases pendingStatus_err_is h hs with rfl | rfl <;> simp
  · simp [completeStatus_err_is h] at hs
  · cases h; exact .inl ⟨by simpa [errorUnauthorized, eq_comm] using hs, h401⟩
  · cases h; exact .inr (.inr (.inr (by simpa [unexpectedStatusError, eq_comm] using hs)))

theorem statusAnswer_err_is_timeout (lib : Lib) (resp : Response (Except String JobStatusResponse))
    {e : Error} (h : (statusAnswer lib resp).2 = some e) : e.is .timeout = false := by
  rw [Bool.eq_false_iff]
  intro hs
  simpa using statusAnswer_err_is h hs

/-- `JobStatus` never fails with `ErrorTimeout`. -/
theorem jobStatus_err_is_timeout (lib : Lib) (c : Client) (url : String)
    (ex : Exchange (Except String JobStatusResponse)) {e : Error}
    (h : (c.jobStatus lib url ex).err = some e) : e.is .timeout = false := by
  unfold Client.jobStatus at h
  split_ifs at h
  · cases h; rfl
  · split at h
    · cases h; rfl
    · split at h
      · cases h
      · exact statusAnswer_err_is_timeout lib _ h

theorem statusAnswer_isComplete (lib : Lib) (resp : Response (Except String JobStatusResponse))
    (h : (statusAnswer lib resp).1.isComplete = true) :
    (statusAnswer lib resp).2 = none ∨ resp.statusCode = 200 ∧ ∃ e, resp.body = .error e := by
  unfold statusAnswer at h ⊢
  split_ifs at h ⊢ with h202 h200
  · simp [pendingStatus_isComplete] at h
  · exact (completeStatus_isComplete h).imp_right (⟨h200, ·⟩)

/-- A status with `IsComplete = true` comes with a `nil` error, except after a 200
answer whose body does not decode. -/
theorem jobStatus_isComplete (lib : Lib) (c : Client) (url : String)
    (ex : Exchange (Except String JobStatusResponse))
    (h : (c.jobStatus lib url ex).value.isComplete = true) :
    (c.jobStatus lib url ex).err = none ∨ ∃ hd e, ex = .ok ⟨200, hd, .error e⟩ := by
  by_cases htok : c.token = ""
  · simp [Client.jobStatus, htok] at h
  cases hurl : lib.urlError url with
  | some e => simp [Client.jobStatus, htok, hurl] at h
  | none =>
      cases ex with
      | error e => simp [Client.jobStatus, htok, hurl] at h
      | ok resp =>
          rw [jobStatus_answered lib htok hurl] at h ⊢
          rcases statusAnswer_isComplete lib resp h with h | ⟨h200, e, he⟩
          · exact .inl h
          · exact .inr ⟨resp.header, e, by rw [← h200, ← he]⟩

theorem statusAnswer_err_is_unauthorized (lib : Lib) (resp : Response (Except String JobStatusResponse)) :
    (statusAnswer lib resp).2.any (·.is .unauthorized) = true ↔ resp.statusCode = 401 := by
  by_cases h401 : resp.statusCode = 401
  · simp [statusAnswer, h401, errorUnauthorized]
  · cases h : (statusAnswer lib resp).2 with
    | none => simp [h401]
    | some e =>
        simp only [Option.any_some, h401, iff_false, Bool.not_eq_true]
        rw [Bool.eq_false_iff]
        intro hs
        simpa [h401] using statusAnswer_err_is h hs

/-- `JobStatus` fails with an error that `Is` `ErrorUnauthorized` exactly when the
client has no token, or the server answered 401. -/
theorem jobStatus_err_is_unauthorized (lib : Lib) (c : Client) (url : String)
    (ex : Exchange (Except String JobStatusResponse)) :
    (c.jobStatus lib url ex).err.any (·.is .unauthorized) = true ↔
      c.token = "" ∨ lib.urlError url = none ∧ ∃ resp, ex = .ok resp ∧ resp.statusCode = 401 := by
  by_cases htok : c.token = ""
  · simp [Client.jobStatus, htok, errorUnauthorized]
  cases hurl : lib.urlError url with
  | some e => simp [Client.jobStatus, htok, hurl]
  | none =>
      cases ex with
      | error e => simp [Client.jobStatus, htok, hurl]
      | ok resp =>
          rw [jobStatus_answered lib htok hurl]
          simp [htok, statusAnswer_err_is_unauthorized]

/-- `JobStatus` on two inputs it can receive, for every job URL: a request that never
reaches the server (`httpClient.Do` fails) comes back with a `nil` error, and a 200
answer whose body does not decode comes back with an error and `IsComplete = true`. -/
theorem jobStatus_error_paths (url : String) :
    (sandboxClient.jobStatus Lib.nanoInstants url (.error "dial tcp: connection refused")).err =
        none ∧
      (sandboxClient.jobStatus Lib.nanoInstants url (.error "dial tcp: connection refused")).value =
        {} ∧
      (sandboxClient.jobStatus Lib.nanoInstants url (.ok ⟨200, [], .error "unexpected EOF"⟩)).err =
        some (.plain "unexpected EOF") ∧
      (sandboxClient.jobStatus Lib.nanoInstants url
        (.ok ⟨200, [], .error "unexpected EOF"⟩)).value.isComplete = true :=
  ⟨rfl, rfl, rfl, rfl⟩

/-! ## Progress of a pending job -/

/-- A 202 answer reports progress `n` exactly when there is one `X-Progress` value, its
leftmost `(<digits>%)` holds the digits of `n`, and `n` fits in an `int`. -/
theorem pendingStatus_eq_progress (header : Header) (n : Int) :
    pendingStatus header = ({ percentComplete := n }, none) ↔
      ∃ v ds, header.values "X-Progress" = [v] ∧ findProgress v.toList = some ds ∧
        n = digitsValue ds ∧ n ≤ maxInt := by
  constructor
  · intro h
    rcases pendingStatus_spec header with ⟨v, ds, hv, hds, hle, h'⟩ | ⟨e, h'⟩ <;> rw [h'] at h
    · simp only [Prod.mk.injEq, JobStatus.mk.injEq, and_true, true_and] at h
      exact ⟨v, ds, hv, hds, h.symm, h ▸ hle⟩
    · simp at h
  · rintro ⟨v, ds, hv, hds, rfl, hle⟩
    simp [pendingStatus, hv, show findProgress v.data = some ds from hds, atoi, hle]

/-- For a client with a token and a job URL that parses, a 202 answer gives either a
progress with a `nil` error or the zero status with an error; it gives progress `n`
exactly when the answer has one `X-Progress` value whose leftmost `(<digits>%)` holds
the digits of `n`, and `n` fits in an `int`. -/
theorem jobStatus_progress (lib : Lib) {c : Client} {url : String} (htok : c.token ≠ "")
    (hurl : lib.urlError url = none) (header : Header) (body : Except String JobStatusResponse) :
    let o := c.jobStatus lib url (.ok ⟨202, header, body⟩)
    ((∃ n : Int, o.value = { percentComplete := n } ∧ o.err = none) ∨
        (o.value = {} ∧ ∃ e, o.err = some e)) ∧
      ∀ n : Int, (o.value = { percentComplete := n } ∧ o.err = none) ↔
        ∃ v pre ds, header.values "X-Progress" = [v] ∧ ProgressMatch v.toList pre ds ∧
          (∀ pre' ds', ProgressMatch v.toList pre' ds' → pre.length ≤ pre'.length) ∧
          n = digitsValue ds ∧ n ≤ maxInt := by
  have h202 : statusAnswer lib ⟨202, header, body⟩ = pendingStatus header := by simp [statusAnswer]
  dsimp only
  rw [jobStatus_answered lib htok hurl, h202]
  refine ⟨?_, fun n => ?_⟩
  · rcases pendingStatus_spec header with ⟨_, _, _, _, _, h⟩ | ⟨e, h⟩ <;> rw [h]
    · exact .inl ⟨_, rfl, rfl⟩
    · exact .inr ⟨rfl, e, rfl⟩
  · rw [← Prod.mk.injEq, pendingStatus_eq_progress]
    simp only [findProgress_eq_some_iff_leftmost]
    constructor
    · rintro ⟨v, ds, hv, ⟨pre, hm, hleast⟩, rfl, hle⟩
      exact ⟨v, pre, ds, hv, hm, hleast, rfl, hle⟩
    · rintro ⟨v, pre, ds, hv, hm, hleast, rfl, hle⟩
      exact ⟨v, ds, hv, ⟨pre, hm, hleast⟩, rfl, hle⟩

theorem jobStatus_progress_leftmost :
    sandboxClient.token ≠ "" ∧ Lib.nanoInstants.urlError "https://sandbox.bcda.cms.gov/api/v2/jobs/1" = none ∧
      (sandboxClient.jobStatus Lib.nanoInstants "https://sandbox.bcda.cms.gov/api/v2/jobs/1"
          (.ok ⟨202, [("X-Progress", "Exporting (25%), was (10%)")], .error "unused"⟩)).value =
        { percentComplete := 25 } ∧
      (sandboxClient.jobStatus Lib.nanoInstants "https://sandbox.bcda.cms.gov/api/v2/jobs/1"
          (.ok ⟨202, [("X-Progress", "Exporting (25%), was (10%)")], .error "unused"⟩)).err = none := by
  obtain ⟨pre, hm, hleast⟩ :=
    (findProgress_eq_some_iff_leftmost "Exporting (25%), was (10%)".toList ['2', '5']).1 rfl
  exact ⟨by decide, rfl, ((jobStatus_progress Lib.nanoInstants (by decide) rfl _ _).2 25).2
    ⟨_, pre, ['2', '5'], rfl, hm, hleast, rfl, by decide⟩⟩

/-! ## When `JobStatus` returns no error -/

/-- The loop over the outputs succeeds exactly when every output's type is known. -/
theorem collectResultURLs_isOk_iff (m : ResultMap) (items : List JobStatusOutput) :
    (∃ m', collectResultURLs m items = .ok m') ↔
      ∀ item ∈ items, ∃ r, resourceTypeFromAPI item.resourceType = .ok r := by
  refine ⟨fun ⟨m', hm'⟩ item hi => ?_, collectResultURLs_ok⟩
  cases hr : resourceTypeFromAPI item.resourceType with
  | ok r => exact ⟨r, rfl⟩
  | error e =>
      obtain ⟨e', he'⟩ := collectResultURLs_error (m := m) ⟨item, hi, e, hr⟩
      rw [hm'] at he'
      cases he'

theorem pendingStatus_err_eq_none (header : Header) :
    (pendingStatus header).2 = none ↔
      ∃ v ds, header.values "X-Progress" = [v] ∧ findProgress v.toList = some ds ∧
        (digitsValue ds : Int) ≤ maxInt := by
  rcases pendingStatus_spec header with ⟨v, ds, hv, hds, hle, h⟩ | ⟨e, h⟩ <;> rw [h]
  · exact ⟨fun _ => ⟨v, ds, hv, hds, hle⟩, fun _ => rfl⟩
  · refine ⟨fun h' => (by cases h'), fun ⟨v, ds, hv, hds, hle⟩ => ?_⟩
    have := (pendingStatus_eq_progress header (digitsValue ds)).2 ⟨v, ds, hv, hds, rfl, hle⟩
    rw [h] at this
    exact absurd (congrArg Prod.snd this) (Option.some_ne_none e)

theorem completeStatus_err_eq_none (lib : Lib) (body : Except String JobStatusResponse) :
    (completeStatus lib body).2 = none ↔
      ∃ jr, body = .ok jr ∧ (∀ item ∈ jr.output, ∃ r, resourceTypeFromAPI item.resourceType = .ok r) ∧
        ∃ t, lib.parseFHIRInstant jr.transactionTime = .ok t := by
  rcases body with e | jr
  · simp [completeStatus]
  simp only [Except.ok.injEq, exists_eq_left', ← collectResultURLs_isOk_iff []]
  cases hc : collectResultURLs [] jr.output with
  | error e => simp [completeStatus, hc]
  | ok m => cases hp : lib.parseFHIRInstant jr.transactionTime <;> simp [completeStatus, hc, hp]

theorem jobStatus_transport_error (lib : Lib) (c : Client) (url e : String) :
    (c.jobStatus lib url (.error e)).value = {} := by
  unfold Client.jobStatus
  split_ifs
  · rfl
  · split <;> rfl

/-- `JobStatus` returns a `nil` error exactly when the client holds a token, the URL
parses, and either `httpClient.Do` failed (the error is dropped: the zero status is
returned) or the server answered 202 with one `X-Progress` value holding a progress that
fits in an `int`, or 200 with a body that decodes, outputs of known types only and a
transaction time that parses. -/
theorem jobStatus_err_eq_none (lib : Lib) (c : Client) (url : String)
    (ex : Exchange (Except String JobStatusResponse)) :
    ((c.jobStatus lib url ex).err = none ↔
      c.token ≠ "" ∧ lib.urlError url = none ∧
        ((∃ e, ex = .error e) ∨ ∃ resp, ex = .ok resp ∧
          ((resp.statusCode = 202 ∧ ∃ v ds, resp.header.values "X-Progress" = [v] ∧
              findProgress v.toList = some ds ∧ (digitsValue ds : Int) ≤ maxInt) ∨
            (resp.statusCode = 200 ∧ ∃ jr, resp.body = .ok jr ∧
              (∀ item ∈ jr.output, ∃ r, resourceTypeFromAPI item.resourceType = .ok r) ∧
              ∃ t, lib.parseFHIRInstant jr.transactionTime = .ok t)))) ∧
      ∀ e, ex = .error e → (c.jobStatus lib url ex).value = {} := by
  refine ⟨?_, fun e he => he ▸ jobStatus_transport_error lib c url e⟩
  by_cases htok : c.token = ""
  · exact iff_of_false (by simp [Client.jobStatus, htok]) fun h => h.1 htok
  cases hurl : lib.urlError url with
  | some e =>
      exact iff_of_false (by simp [Client.jobStatus, htok, hurl]) fun h => Option.some_ne_none e h.2.1
  | none =>
      rcases ex with e | resp
      · exact iff_of_true (by simp [Client.jobStatus, htok, hurl]) ⟨htok, rfl, .inl ⟨e, rfl⟩⟩
      simp only [jobStatus_answered lib htok hurl, Except.ok.injEq, exists_eq_left', reduceCtorEq,
        exists_false, false_or, ne_eq, htok, not_false_eq_true, true_and]
      rw [← pendingStatus_err_eq_none, ← completeStatus_err_eq_none, statusAnswer]
      split_ifs with h202 h200 h401 <;> simp [*, errorUnauthorized, unexpectedStatusError]

end BulkFhir
