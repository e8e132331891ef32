import BulkFhir.Basic

/-! # The resource wrapper

`resourceWrapper` of package `processing` keeps a resource in two forms, FHIR
JSON bytes and a proto, and converts lazily between them. Reading the proto
clears the JSON, since the caller may be about to mutate the proto, until the
pipeline marks the wrapper done mutating before the sinks run.

The operations on one wrapper are `Proto()`, `JSON()`, the marking done by
`writeToSinks`, and writes through a pointer `Proto()` returned. A caller may
write through the pointer of the last `Proto()` if that call came before the
marking and no `JSON()` came since; `Session.holds` tracks that permission.
Along every such sequence the wrapper keeps a form, its JSON agrees with its
proto, failures change nothing, and nothing is cleared once it is marked.
-/

namespace BulkFhir.Processing

/-- The two conversions of `jsonformat`: `Unmarshaller.UnmarshalR4` and
`Marshaller.Marshal`, each applied to a field that may be nil. `P` is the message
`*rpb.ContainedResource` points to. -/
structure Codec (P : Type) where
  unmarshalR4 : Option Bytes → Except String P
  marshal : Option P → Except String Bytes

/-- `resourceWrapper`; the marshaller and unmarshaller are the `Codec` its methods
receive. -/
structure ResourceWrapper (P : Type) where
  resourceType : Int
  sourceURL : String
  proto : Option P
  json : Option Bytes
  doneMutating : Bool

variable {P : Type}

/-- The wrapper `Pipeline.Process` builds around its input. -/
def ResourceWrapper.ofJSON (resourceType : Int) (sourceURL : String) (json : Option Bytes) :
    ResourceWrapper P :=
  { resourceType, sourceURL, proto := none, json, doneMutating := false }

/-- `if !rw.doneMutating { rw.json = nil }`. -/
def ResourceWrapper.clearJSON (rw : ResourceWrapper P) : ResourceWrapper P :=
  if rw.doneMutating then rw else { rw with json := none }

/-- `Proto()`: the result and the wrapper afterwards. -/
def ResourceWrapper.Proto (codec : Codec P) (rw : ResourceWrapper P) :
    Except String P × ResourceWrapper P :=
  match rw.proto with
  | some p => (.ok p, rw.clearJSON)
  | none =>
      match codec.unmarshalR4 rw.json with
      | .error e => (.error e, rw)
      | .ok p => (.ok p, { rw with proto := some p }.clearJSON)

/-- `JSON()`: the result and the wrapper afterwards. -/
def ResourceWrapper.JSON (codec : Codec P) (rw : ResourceWrapper P) :
    Except String Bytes × ResourceWrapper P :=
  match rw.json with
  | some b => (.ok b, rw)
  | none =>
      match codec.marshal rw.proto with
      | .error e => (.error e, rw)
      | .ok b => (.ok b, { rw with json := some b })

/-- What `writeToSinks` does to a `*resourceWrapper`. -/
def ResourceWrapper.markDone (rw : ResourceWrapper P) : ResourceWrapper P :=
  { rw with doneMutating := true }

namespace ResourceWrapper

variable (codec : Codec P) (rw : ResourceWrapper P)

/-- `Proto()` fails and changes nothing, or returns the cached proto or the parse of the
cached JSON, then holds it and clears the JSON unless the wrapper is marked. -/
theorem Proto_spec :
    (∃ e, rw.Proto codec = (.error e, rw)) ∨
      ∃ p, rw.Proto codec = (.ok p, { rw with proto := some p }.clearJSON) ∧
        (rw.proto = some p ∨ rw.proto = none ∧ codec.unmarshalR4 rw.json = .ok p) := by
  obtain ⟨ty, url, proto, json, done⟩ := rw
  cases proto with
  | some q => exact .inr ⟨q, rfl, .inl rfl⟩
  | none =>
      cases hu : codec.unmarshalR4 json with
      | error e => exact .inl ⟨e, by simp [Proto, hu]⟩
      | ok q => exact .inr ⟨q, by simp [Proto, hu], .inr ⟨rfl, rfl⟩⟩

/-- `JSON()` fails and changes nothing, or returns the cached JSON or the marshalling
of the proto, and caches what it returns. -/
theorem JSON_spec :
    (∃ e, rw.JSON codec = (.error e, rw)) ∨
      ∃ j, rw.JSON codec = (.ok j, { rw with json := some j }) ∧
        (rw.json = some j ∨ rw.json = none ∧ codec.marshal rw.proto = .ok j) := by
  obtain ⟨ty, url, proto, json, done⟩ := rw
  cases json with
  | some b => exact .inr ⟨b, rfl, .inl rfl⟩
  | none =>
      cases hm : codec.marshal proto with
      | error e => exact .inl ⟨e, by simp [JSON, hm]⟩
      | ok b => exact .inr ⟨b, by simp [JSON, hm], .inr ⟨rfl, rfl⟩⟩

theorem Proto_error {e : String} (h : (rw.Proto codec).1 = .error e) : (rw.Proto codec).2 = rw := by
  rcases Proto_spec codec rw with ⟨_, hP⟩ | ⟨_, hP, -⟩ <;> rw [hP] at h ⊢
  cases h

theorem JSON_error {e : String} (h : (rw.JSON codec).1 = .error e) : (rw.JSON codec).2 = rw := by
  rcases JSON_spec codec rw with ⟨_, hJ⟩ | ⟨_, hJ, -⟩ <;> rw [hJ] at h ⊢
  cases h

@[simp] theorem clearJSON_proto : rw.clearJSON.proto = rw.proto := by
  unfold clearJSON; split <;> rfl

@[simp] theorem clearJSON_doneMutating : rw.clearJSON.doneMutating = rw.doneMutating := by
  unfold clearJSON; split <;> rfl

theorem clearJSON_json : rw.clearJSON.json = if rw.doneMutating then rw.json else none := by
  unfold clearJSON; split <;> rfl

end ResourceWrapper

/-! ## Calls on one wrapper -/

/-- One thing that happens to a wrapper between `Process` building it and the sinks
returning. -/
inductive Op (P : Type)
  | proto
  | json
  | markDone
  /-- A write of `f` through the pointer a `Proto()` returned. -/
  | mutate (f : P → P)

/-- A wrapper, and whether its caller holds a pointer it may write through. -/
structure Session (P : Type) where
  rw : ResourceWrapper P
  holds : Bool

/-- The calls a caller may make: a write needs a pointer it may write through. -/
def Session.Allowed (s : Session P) : Op P → Prop
  | .mutate _ => s.holds = true
  | _ => True

/-- One operation. A successful `Proto()` hands out a writable pointer before the
wrapper is marked; `JSON()` and the marking take it away. -/
def Session.step (codec : Codec P) (s : Session P) : Op P → Session P
  | .proto =>
      match s.rw.Proto codec with
      | (.ok _, rw) => ⟨rw, !s.rw.doneMutating⟩
      | (.error _, rw) => ⟨rw, s.holds⟩
  | .json => ⟨(s.rw.JSON codec).2, false⟩
  | .markDone => ⟨s.rw.markDone, false⟩
  | .mutate f => ⟨{ s.rw with proto := s.rw.proto.map f }, s.holds⟩

/-- The sessions reachable from the wrapper `Process` builds from `b` by allowed
operations. -/
inductive Reachable (codec : Codec P) (b : Bytes) : Session P → Prop
  | init (resourceType : Int) (sourceURL : String) :
      Reachable codec b ⟨.ofJSON resourceType sourceURL (some b), false⟩
  | step {s : Session P} {op : Op P} :
      Reachable codec b s → s.Allowed op → Reachable codec b (s.step codec op)

/-- The wrapper's invariant: a form is always held; cached JSON is `b`, with the proto
absent or parsed from `b`, or else it is the marshalling of the proto; a writable
pointer means no JSON, a proto, and a wrapper not yet marked. -/
structure Consistent (codec : Codec P) (b : Bytes) (s : Session P) : Prop where
  has_form : s.rw.proto.isSome ∨ s.rw.json.isSome
  json_agrees : ∀ j, s.rw.json = some j →
    (j = b ∧ ∀ p, s.rw.proto = some p → codec.unmarshalR4 (some b) = .ok p) ∨
      ∃ p, s.rw.proto = some p ∧ codec.marshal (some p) = .ok j
  holds_writable : s.holds = true →
    s.rw.json = none ∧ s.rw.proto.isSome ∧ s.rw.doneMutating = false

namespace Consistent

variable {codec : Codec P} {b : Bytes}

theorem init (resourceType : Int) (sourceURL : String) :
    Consistent codec b ⟨.ofJSON resourceType sourceURL (some b), false⟩ where
  has_form := by simp [ResourceWrapper.ofJSON]
  json_agrees := by simp [ResourceWrapper.ofJSON]
  holds_writable := by simp

/-- Every allowed operation keeps the invariant. -/
theorem step {s : Session P} (hc : Consistent codec b s) {op : Op P} (ha : s.Allowed op) :
    Consistent codec b (s.step codec op) := by
  obtain ⟨hform, hagree, hwrite⟩ := hc
  cases op with
  | proto =>
      rcases ResourceWrapper.Proto_spec codec s.rw with ⟨e, hP⟩ | ⟨q, hP, hsrc⟩ <;>
        simp only [Session.step, hP]
      · exact ⟨hform, hagree, hwrite⟩
      refine ⟨by simp, fun j hj => ?_, fun h => ?_⟩
      · rw [ResourceWrapper.clearJSON_json] at hj
        split_ifs at hj
        simp only at hj
        rcases hsrc with hq | ⟨hnone, hparse⟩
        · simpa [hq] using hagree j hj
        · rcases hagree j hj with ⟨rfl, -⟩ | ⟨p, hp, -⟩
          · exact .inl ⟨rfl, by simpa [hj] using hparse⟩
          · simp [hnone] at hp
      · simp only [Bool.not_eq_true'] at h
        simp [ResourceWrapper.clearJSON, h]
  | json =>
      rcases ResourceWrapper.JSON_spec codec s.rw with ⟨e, hJ⟩ | ⟨j, hJ, hsrc⟩ <;>
        simp only [Session.step, hJ]
      · exact ⟨hform, hagree, by simp⟩
      refine ⟨by simp, fun j' hj' => ?_, by simp⟩
      cases hj'
      rcases hsrc with hj | ⟨hnone, hm⟩
      · exact hagree j hj
      · obtain ⟨p, hp⟩ := Option.isSome_iff_exists.1 (by simpa [hnone] using hform)
        exact .inr ⟨p, hp, by rwa [hp] at hm⟩
  | markDone => exact ⟨hform, hagree, by simp [Session.step]⟩
  | mutate f =>
      obtain ⟨hnone, hsome, hdone⟩ := hwrite ha
      refine ⟨by simp [Session.step, hsome], fun j hj => ?_, fun _ => ?_⟩
      · simp [Session.step, hnone] at hj
      · simpa [Session.step, hnone, hdone] using hsome

theorem step_of_marked {s : Session P} (hc : Consistent codec b s)
    (hdone : s.rw.doneMutating = true) {op : Op P} (ha : s.Allowed op) :
    (s.step codec op).rw.doneMutating = true ∧
      (s.rw.proto.isSome → (s.step codec op).rw.proto.isSome) ∧
      (s.rw.json.isSome → (s.step codec op).rw.json.isSome) := by
  cases op with
  | proto =>
      rcases ResourceWrapper.Proto_spec codec s.rw with ⟨e, hP⟩ | ⟨q, hP, -⟩ <;>
        simp [Session.step, hP, ResourceWrapper.clearJSON, hdone]
  | json =>
      rcases ResourceWrapper.JSON_spec codec s.rw with ⟨e, hJ⟩ | ⟨j, hJ, -⟩ <;>
        simp [Session.step, hJ, hdone]
  | markDone => simp [Session.step, ResourceWrapper.markDone]
  | mutate f => simp [(hc.holds_writable ha).2.2] at hdone

end Consistent

/-- For the wrapper `Pipeline.Process` builds from bytes `b`, along every allowed
sequence of `Proto()`, `JSON()`, marking and writes: a form is always held; cached
JSON is `b` (with no proto, or the parse of `b`) or the marshalling of the current
proto, and so is whatever `JSON()` returns; a failing `Proto()` or `JSON()` changes
nothing; and once marked, nothing clears a cached form again. -/
theorem reachable_consistent {codec : Codec P} {b : Bytes} {s : Session P}
    (h : Reachable codec b s) :
    Consistent codec b s ∧
      (∀ e, (s.rw.Proto codec).1 = .error e → (s.rw.Proto codec).2 = s.rw) ∧
      (∀ e, (s.rw.JSON codec).1 = .error e → (s.rw.JSON codec).2 = s.rw) ∧
      (∀ j, (s.rw.JSON codec).1 = .ok j →
        (j = b ∧ ∀ p, s.rw.proto = some p → codec.unmarshalR4 (some b) = .ok p) ∨
          ∃ p, s.rw.proto = some p ∧ codec.marshal (some p) = .ok j) ∧
      (s.rw.doneMutating = true → ∀ op, s.Allowed op →
        (s.step codec op).rw.doneMutating = true ∧
          (s.rw.proto.isSome → (s.step codec op).rw.proto.isSome) ∧
          (s.rw.json.isSome → (s.step codec op).rw.json.isSome)) := by
  have hc : Consistent codec b s := by
    induction h with
    | init ty url => exact Consistent.init ty url
    | step _ ha ih => exact ih.step ha
  refine ⟨hc, fun e => ResourceWrapper.Proto_error codec s.rw,
    fun e => ResourceWrapper.JSON_error codec s.rw, fun j hj => ?_,
    fun hdone op ha => hc.step_of_marked hdone ha⟩
  rcases ResourceWrapper.JSON_spec codec s.rw with ⟨e, hJ⟩ | ⟨j', hJ, -⟩ <;> rw [hJ] at hj
  · cases hj
  cases hj
  simpa [Session.step, hJ] using
    (hc.step (show s.Allowed .json from trivial)).json_agrees j (by simp [Session.step, hJ])

theorem reachable_consistent_after_proto :
    let codec : Codec Bytes := ⟨fun j => j.elim (.error "nil") .ok, fun p => p.elim (.error "nil") .ok⟩
    Consistent codec [123]
      ((⟨.ofJSON 1 "u" (some [123]), false⟩ : Session Bytes).step codec .proto) :=
  (reachable_consistent (.step (.init 1 "u") (show Session.Allowed _ Op.proto from trivial))).1

end BulkFhir.Processing
