import BulkFhir.Basic

/-! # Resource types and their wire names

`ResourceType` is a Go `int`: the four named constants are `iota` values, and
any other value can be formed with `ResourceType(n)`. `toAPI` and
`resourceTypeFromAPI` are inverse on the four mapped values; the query value
that `StartBulkDataExport` sends as `_type` splits back into the list it was
built from.
-/

namespace BulkFhir

/-- `type ResourceType int`. -/
structure ResourceType where
  val : Int
  deriving DecidableEq, Repr

namespace ResourceType

def patient : ResourceType := ⟨0⟩
def coverage : ResourceType := ⟨1⟩
def explanationOfBenefit : ResourceType := ⟨2⟩
def operationOutcome : ResourceType := ⟨3⟩

/-- `ToAPI`: the BCDA API name of a resource type. -/
def toAPI (r : ResourceType) : Except Error String :=
  match r.val with
  | 0 => .ok "Patient"
  | 1 => .ok "Coverage"
  | 2 => .ok "ExplanationOfBenefit"
  | 3 => .ok "OperationOutcome"
  | _ => .error (.plain "the specified resource type does not have a mapped BCDA API value")

end ResourceType

/-- `ResourceTypeFromAPI`. -/
def resourceTypeFromAPI (r : String) : Except Error ResourceType :=
  if r = "Patient" then .ok .patient
  else if r = "Coverage" then .ok .coverage
  else if r = "ExplanationOfBenefit" then .ok .explanationOfBenefit
  else if r = "OperationOutcome" then .ok .operationOutcome
  else .error (.plain "not a valid ResourceType")

/-- Exactly the four named constants have a wire name, and reading it back gives
the constant again. -/
theorem toAPI_eq_ok {r : ResourceType} {s : String} (h : r.toAPI = .ok s) :
    resourceTypeFromAPI s = .ok r ∧ ',' ∉ s.toList := by
  obtain ⟨v⟩ := r
  unfold ResourceType.toAPI at h
  split at h <;> cases h <;> simp_all <;> rfl

theorem toAPI_eq_error {r : ResourceType} {e : Error} (h : r.toAPI = .error e) :
    e = .plain "the specified resource type does not have a mapped BCDA API value" := by
  unfold ResourceType.toAPI at h
  split at h <;> cases h
  rfl

theorem resourceTypeFromAPI_eq_ok {s : String} {r : ResourceType}
    (h : resourceTypeFromAPI s = .ok r) : r.toAPI = .ok s := by
  unfold resourceTypeFromAPI at h
  split_ifs at h <;> cases h <;> subst_vars <;> rfl

theorem resourceTypeFromAPI_eq_error {s : String} {e : Error}
    (h : resourceTypeFromAPI s = .error e) : e = .plain "not a valid ResourceType" := by
  simp [resourceTypeFromAPI, apply_ite (· = Except.error e)] at h
  exact h.2.2.2.2.symm

/-- `ToAPI` and `ResourceTypeFromAPI` are inverse: a name reads as a type exactly when
that type maps to the name. -/
theorem resourceTypeFromAPI_iff_toAPI (s : String) (r : ResourceType) :
    resourceTypeFromAPI s = .ok r ↔ r.toAPI = .ok s :=
  ⟨resourceTypeFromAPI_eq_ok, fun h => (toAPI_eq_ok h).1⟩

/-! ## The `_type` query value -/

/-- The loop of `resourceTypesToQueryValue` over `types[1:]`, writing `","` and
each name after what the builder holds. -/
def queryValueLoop (b : String) : List ResourceType → Except Error String
  | [] => .ok b
  | t :: ts => do
      let a ← t.toAPI
      queryValueLoop (b ++ "," ++ a) ts

/-- `resourceTypesToQueryValue`; `types[0]` panics on an empty slice, and the only
caller checks `len(types) > 0`. -/
def resourceTypesToQueryValue (types : List ResourceType) (h : types ≠ []) :
    Except Error String := do
  let v ← (types.head h).toAPI
  queryValueLoop v types.tail

/-- `strings.Split(v, ",")`. -/
def splitComma (v : String) : List String :=
  (v.toList.splitOn ',').map String.mk

theorem queryValueLoop_error_iff (b : String) (ts : List ResourceType) :
    (∃ e, queryValueLoop b ts = .error e) ↔ ∃ t ∈ ts, ∃ e, t.toAPI = .error e := by
  induction ts generalizing b with
  | nil => simp [queryValueLoop]
  | cons t ts ih =>
      cases h : t.toAPI with
      | error e => simp [queryValueLoop, h, bind, Except.bind]
      | ok a =>
          simp only [queryValueLoop, h, bind, Except.bind, ih, List.mem_cons]
          constructor
          · rintro ⟨u, hu, e, he⟩; exact ⟨u, .inr hu, e, he⟩
          · rintro ⟨u, rfl | hu, e, he⟩
            · simp [h] at he
            · exact ⟨u, hu, e, he⟩

theorem queryValueLoop_eq_error {b : String} {ts : List ResourceType} {e : Error}
    (h : queryValueLoop b ts = .error e) :
    e = .plain "the specified resource type does not have a mapped BCDA API value" := by
  induction ts generalizing b with
  | nil => cases h
  | cons t ts ih =>
      cases ht : t.toAPI with
      | error e' =>
          simp only [queryValueLoop, ht, bind, Except.bind, Except.error.injEq] at h
          exact h ▸ toAPI_eq_error ht
      | ok a =>
          simp only [queryValueLoop, ht, bind, Except.bind] at h
          exact ih h

/-- A successful loop appends the names of `ts`, each after a comma. -/
theorem queryValueLoop_eq_ok {b v : String} {ts : List ResourceType}
    (h : queryValueLoop b ts = .ok v) :
    ∃ names : List String, ts.mapM ResourceType.toAPI = .ok names ∧
      v.toList = b.toList ++ ((names.map String.toList).map (',' :: ·)).flatten := by
  induction ts generalizing b with
  | nil => cases h; exact ⟨[], rfl, by simp⟩
  | cons t ts ih =>
      cases ht : t.toAPI with
      | error e => simp [queryValueLoop, ht, bind, Except.bind] at h
      | ok a =>
          simp only [queryValueLoop, ht, bind, Except.bind] at h
          obtain ⟨names, hn, hv⟩ := ih h
          refine ⟨a :: names, by rw [List.mapM_cons, ht, hn]; rfl, ?_⟩
          rw [hv]
          simp

theorem mapM_toAPI_eq_ok {ts : List ResourceType} {names : List String}
    (h : ts.mapM ResourceType.toAPI = .ok names) :
    names.mapM resourceTypeFromAPI = .ok ts ∧ ∀ a ∈ names, ',' ∉ a.toList := by
  induction ts generalizing names with
  | nil => cases h; exact ⟨rfl, by simp⟩
  | cons t ts ih =>
      rw [List.mapM_cons] at h
      cases ht : t.toAPI with
      | error e => rw [ht] at h; cases h
      | ok a =>
          cases hts : ts.mapM ResourceType.toAPI with
          | error e => rw [ht, hts] at h; cases h
          | ok as =>
              rw [ht, hts] at h
              cases h
              obtain ⟨hrest, hcomma⟩ := ih hts
              obtain ⟨hfrom, hnot⟩ := toAPI_eq_ok ht
              refine ⟨by rw [List.mapM_cons, hfrom, hrest]; rfl, ?_⟩
              exact List.forall_mem_cons.2 ⟨hnot, hcomma⟩

theorem intercalate_comma_cons (l : List Char) (ls : List (List Char)) :
    [','].intercalate (l :: ls) = l ++ (ls.map (',' :: ·)).flatten := by
  induction ls generalizing l with
  | nil => simp [List.intercalate]
  | cons l₂ ls ih =>
      have h := ih l₂
      simp only [List.intercalate, List.intersperse_cons₂, List.flatten_cons] at h ⊢
      simp [h]

theorem resourceTypesToQueryValue_error_iff (types : List ResourceType) (h : types ≠ []) :
    (∃ e, resourceTypesToQueryValue types h = .error e) ↔ ∃ t ∈ types, ∃ e, t.toAPI = .error e := by
  obtain _ | ⟨t, ts⟩ := types
  · exact absurd rfl h
  cases ht : t.toAPI with
  | error e =>
      simp only [resourceTypesToQueryValue, List.head_cons, List.tail_cons, ht, bind, Except.bind]
      exact ⟨fun _ => ⟨t, List.mem_cons_self t ts, e, ht⟩, fun _ => ⟨e, rfl⟩⟩
  | ok a =>
      simp only [resourceTypesToQueryValue, List.head_cons, List.tail_cons, ht, bind,
        Except.bind, queryValueLoop_error_iff, List.mem_cons]
      refine ⟨fun ⟨u, hu, e, he⟩ => ⟨u, .inr hu, e, he⟩, ?_⟩
      rintro ⟨u, rfl | hu, e, he⟩
      · simp [ht] at he
      · exact ⟨u, hu, e, he⟩

theorem resourceTypesToQueryValue_eq_error {types : List ResourceType} {h : types ≠ []}
    {e : Error} (he : resourceTypesToQueryValue types h = .error e) :
    e = .plain "the specified resource type does not have a mapped BCDA API value" := by
  unfold resourceTypesToQueryValue at he
  cases ht : (types.head h).toAPI with
  | error e' =>
      simp only [ht, bind, Except.bind, Except.error.injEq] at he
      exact he ▸ toAPI_eq_error ht
  | ok a =>
      simp only [ht, bind, Except.bind] at he
      exact queryValueLoop_eq_error he

/-- `strings.Split` at `,` and `ResourceTypeFromAPI` read a `_type` value back as the
list it was built from. -/
theorem splitComma_resourceTypesToQueryValue {types : List ResourceType} {h : types ≠ []}
    {v : String} (hv : resourceTypesToQueryValue types h = .ok v) :
    (splitComma v).mapM resourceTypeFromAPI = .ok types := by
  obtain _ | ⟨t, ts⟩ := types
  · exact absurd rfl h
  cases ht : t.toAPI with
  | error e => simp [resourceTypesToQueryValue, ht, bind, Except.bind] at hv
  | ok a =>
      simp only [resourceTypesToQueryValue, List.head_cons, List.tail_cons, ht, bind,
        Except.bind] at hv
      obtain ⟨names, hn, hv⟩ := queryValueLoop_eq_ok hv
      have hall : (t :: ts).mapM ResourceType.toAPI = .ok (a :: names) := by
        rw [List.mapM_cons, ht, hn]; rfl
      obtain ⟨hback, hcomma⟩ := mapM_toAPI_eq_ok hall
      have hsplit : v.toList.splitOn ',' = (a :: names).map String.toList := by
        rw [hv, List.map_cons, ← intercalate_comma_cons,
          List.splitOn_intercalate _ _ (by simpa using hcomma) (by simp)]
      rw [splitComma, hsplit, List.map_map]
      simpa [Function.comp_def] using hback

/-- The `_type` value fails exactly when some listed type has no wire name; otherwise
`strings.Split` at `,` and `ResourceTypeFromAPI` give back the list, order and
repetitions included. -/
theorem resourceTypesToQueryValue_roundTrip (types : List ResourceType) (h : types ≠ []) :
    ((∃ e, resourceTypesToQueryValue types h = .error e) ↔
        ∃ t ∈ types, ∃ e, t.toAPI = .error e) ∧
      ∀ v, resourceTypesToQueryValue types h = .ok v →
        (splitComma v).mapM resourceTypeFromAPI = .ok types :=
  ⟨resourceTypesToQueryValue_error_iff types h, fun _ => splitComma_resourceTypesToQueryValue⟩

theorem resourceTypesToQueryValue_roundTrip_repeated :
    [ResourceType.patient, .coverage, .patient] ≠ [] ∧
      resourceTypesToQueryValue [.patient, .coverage, .patient] (List.cons_ne_nil _ _) =
        .ok "Patient,Coverage,Patient" ∧
      (splitComma "Patient,Coverage,Patient").mapM resourceTypeFromAPI =
        .ok [.patient, .coverage, .patient] :=
  have h : [ResourceType.patient, .coverage, .patient] ≠ [] := List.cons_ne_nil _ _
  have henc : resourceTypesToQueryValue [.patient, .coverage, .patient] h =
      .ok "Patient,Coverage,Patient" := rfl
  ⟨h, henc, (resourceTypesToQueryValue_roundTrip [.patient, .coverage, .patient] h).2 _ henc⟩

end BulkFhir
