import BulkFhir.Resource

/-! # The pipeline

`Pipeline` of package `processing` chains processors in front of sinks.
`NewPipeline` walks the processors from the last to the first, giving each the
function built so far as its `Output` and replacing that function by the
processor's own `Process`. The only functions it builds are `Process` methods
and `writeToSinks`, so a `Stage` names one, and a processor's `Output` is the
`Stage` its `SetOutput` received.

A processor's code is a `Body`: steps on the stages' state, and calls of its
`Output`; sinks act on the state alone. The pipeline logs every call it makes.
`call` follows the stored outputs with a bound on the nesting of calls; a
pipeline built by `NewPipeline` nests one call per processor and then
`writeToSinks`, which `Process` allows for. Whatever the processors do, a sink
only ever receives a resource marked done, and only inside calls of the processors
in the order they were passed.
-/

namespace BulkFhir.Processing

/-- A `ResourceWrapper` interface value: the package's own `*resourceWrapper`, or a
value of another type implementing the interface. -/
inductive Resource (P α : Type)
  | wrapper (rw : ResourceWrapper P)
  | other (x : α)

/-- `if rw, ok := resource.(*resourceWrapper); ok { rw.doneMutating = true }`. -/
def Resource.markDone {P α : Type} : Resource P α → Resource P α
  | .wrapper rw => .wrapper rw.markDone
  | .other x => .other x

/-- An `OutputFunction` `NewPipeline` builds: `processors[i].Process` or
`p.writeToSinks`. -/
inductive Stage
  | process (i : Nat)
  | writeToSinks
  deriving DecidableEq, Repr

/-- A call the pipeline makes, with its result where the pipeline reads one. -/
inductive Event (P α : Type)
  | process (i : Nat) (r : Resource P α)
  | write (j : Nat) (r : Resource P α) (result : Option Error)
  | finalizeProcessor (i : Nat) (result : Option Error)
  | finalizeSink (j : Nat) (result : Option Error)

/-- The state the stages act on, and the log of the pipeline's calls. -/
structure World (P α σ : Type) where
  state : σ
  log : List (Event P α)

variable {P α σ : Type}

/-- Append one call to the log. -/
def World.record (w : World P α σ) (e : Event P α) : World P α σ :=
  { w with log := w.log ++ [e] }

/-- The code of a processor's method: steps on the state, reads of it, calls of the
processor's `Output`, and a return. -/
inductive Body (P α σ : Type)
  | ret (err : Option Error)
  | update (f : σ → σ) (k : Body P α σ)
  | read (k : σ → Body P α σ)
  | output (r : Resource P α) (k : Option Error → Body P α σ)

/-- Run a body against the function its `Output` calls. -/
def Body.run (out : Resource P α → World P α σ → Option Error × World P α σ) :
    Body P α σ → World P α σ → Option Error × World P α σ
  | .ret e, w => (e, w)
  | .update f k, w => k.run out { w with state := f w.state }
  | .read k, w => (k w.state).run out w
  | .output r k, w => (k (out r w).1).run out (out r w).2

/-- `Processor`: its `Process` and `Finalize`, and the `Output` it stores
(`BaseProcessor.Output`). -/
structure Processor (P α σ : Type) where
  process : Resource P α → Body P α σ
  finalize : Body P α σ
  output : Option Stage := none

/-- `Sink`. -/
structure Sink (P α σ : Type) where
  write : Resource P α → σ → Option Error × σ
  finalize : σ → Option Error × σ

/-- `Pipeline`; the JSON codec is the one its resources' methods receive. -/
structure Pipeline (P α σ : Type) where
  processors : List (Processor P α σ)
  sinks : List (Sink P α σ)
  pipelineFunc : Stage

/-! ## Calls -/

/-- The loop of `writeToSinks` from sink `j`: each `Write`, until one fails. -/
def writeSinks (r : Resource P α) : Nat → List (Sink P α σ) → World P α σ →
    Option Error × World P α σ
  | _, [], w => (none, w)
  | j, s :: ss, w =>
      let w' : World P α σ := ⟨(s.write r w.state).2, w.log ++ [.write j r (s.write r w.state).1]⟩
      match (s.write r w.state).1 with
      | some e => (some e, w')
      | none => writeSinks r (j + 1) ss w'

/-- `writeToSinks`: mark the resource done, then write it to every sink in order. -/
def Pipeline.writeToSinks (p : Pipeline P α σ) (r : Resource P α) (w : World P α σ) :
    Option Error × World P α σ :=
  writeSinks r.markDone 0 p.sinks w

/-- Call a stage with at most `fuel` nested calls. -/
def Pipeline.call (p : Pipeline P α σ) : Nat → Stage → Resource P α → World P α σ →
    Option Error × World P α σ
  | 0, _, _, w => (none, w)
  | _ + 1, .writeToSinks, r, w => p.writeToSinks r w
  | fuel + 1, .process i, r, w =>
      match p.processors[i]? with
      | none => (none, w)
      | some pr =>
          (pr.process r).run
            (fun r' w' =>
              match pr.output with
              | some o => p.call fuel o r' w'
              | none => (none, w'))
            (w.record (.process i r))

/-- What a processor's `Output` does, with at most `fuel` nested calls. -/
def Pipeline.outputOf (p : Pipeline P α σ) (fuel : Nat) (pr : Processor P α σ)
    (r : Resource P α) (w : World P α σ) : Option Error × World P α σ :=
  match pr.output with
  | some o => p.call fuel o r w
  | none => (none, w)

theorem Pipeline.call_process (p : Pipeline P α σ) (fuel i : Nat) (pr : Processor P α σ)
    (h : p.processors[i]? = some pr) (r : Resource P α) (w : World P α σ) :
    p.call (fuel + 1) (.process i) r w = (pr.process r).run (p.outputOf fuel pr) (w.record (.process i r)) := by
  simp only [Pipeline.call, h]
  rfl

/-- The nesting `Process` and `Finalize` allow: one call per processor, and
`writeToSinks`. -/
def Pipeline.depth (p : Pipeline P α σ) : Nat := p.processors.length + 1

/-- The loop of `NewPipeline` with `k` iterations left: `processors[k-1]` gets the
function built so far as its output, and its `Process` becomes that function. -/
def wire : Nat → Stage → List (Processor P α σ) → Stage × List (Processor P α σ)
  | 0, fn, ps => (fn, ps)
  | k + 1, fn, ps => wire k (.process k) (ps.modify (fun pr => { pr with output := some fn }) k)

/-- `NewPipeline`. The model's processors are values, one per entry, so the entries are
taken to be distinct objects: Go, handed one object twice, calls its `SetOutput` twice
and keeps the later output, which wires the object to its own `Process`. -/
def newPipeline (processors : List (Processor P α σ)) (sinks : List (Sink P α σ)) :
    Pipeline P α σ :=
  { processors := (wire processors.length .writeToSinks processors).2, sinks,
    pipelineFunc := (wire processors.length .writeToSinks processors).1 }

/-- `Process`: wrap the JSON and call the pipeline function. -/
def Pipeline.process (p : Pipeline P α σ) (resourceType : Int) (sourceURL : String)
    (json : Option Bytes) (w : World P α σ) : Option Error × World P α σ :=
  p.call p.depth p.pipelineFunc (.wrapper (.ofJSON resourceType sourceURL json)) w

/-- The processor loop of `Finalize` from processor `i`: each `Finalize`, which may
still call its `Output`, until one fails. -/
def Pipeline.finalizeProcessors (p : Pipeline P α σ) : Nat → List (Processor P α σ) →
    World P α σ → Option Error × World P α σ
  | _, [], w => (none, w)
  | i, pr :: prs, w =>
      let res := pr.finalize.run (p.outputOf p.depth pr) w
      match res.1 with
      | some e => (some e, res.2.record (.finalizeProcessor i (some e)))
      | none => p.finalizeProcessors (i + 1) prs (res.2.record (.finalizeProcessor i none))

/-- The sink loop of `Finalize` from sink `j`. -/
def finalizeSinks : Nat → List (Sink P α σ) → World P α σ → Option Error × World P α σ
  | _, [], w => (none, w)
  | j, s :: ss, w =>
      let w' : World P α σ := ⟨(s.finalize w.state).2, w.log ++ [.finalizeSink j (s.finalize w.state).1]⟩
      match (s.finalize w.state).1 with
      | some e => (some e, w')
      | none => finalizeSinks (j + 1) ss w'

/-- `Finalize`: the processors' finalizers, then the sinks', stopping at the first
error. -/
def Pipeline.finalize (p : Pipeline P α σ) (w : World P α σ) : Option Error × World P α σ :=
  match p.finalizeProcessors 0 p.processors w with
  | (some e, w') => (some e, w')
  | (none, w') => finalizeSinks 0 p.sinks w'

/-! ## Wiring -/

/-- The stage that runs processor `i` of `n`, or `writeToSinks` past the last. -/
def stageAt (n i : Nat) : Stage := if i < n then .process i else .writeToSinks

theorem wire_spec (k : Nat) (fn : Stage) (ps : List (Processor P α σ)) :
    (wire k fn ps).1 = (if k = 0 then fn else .process 0) ∧
      ∀ i, (wire k fn ps).2[i]? =
        if i < k then ps[i]?.map fun pr =>
          { pr with output := some (if i + 1 < k then .process (i + 1) else fn) }
        else ps[i]? := by
  induction k generalizing fn ps with
  | zero => simp [wire]
  | succ k ih =>
      obtain ⟨ih1, ih2⟩ := ih (.process k) (ps.modify (fun pr => { pr with output := some fn }) k)
      refine ⟨by simp [wire, ih1], fun i => ?_⟩
      rw [wire, ih2, List.getElem?_modify]
      rcases Nat.lt_trichotomy i k with hi | rfl | hi
      · have hne : k ≠ i := by omega
        by_cases h1 : i + 1 < k
        · simp [hi, hne, h1, show i < k + 1 by omega]
        · have hk : k = i + 1 := by omega
          subst hk
          simp [if_pos (show i < i + 1 + 1 by omega)]
      · simp
      · simp [show ¬ i < k by omega, show ¬ i < k + 1 by omega, show k ≠ i by omega]

theorem wire_length (k : Nat) (fn : Stage) (ps : List (Processor P α σ)) :
    (wire k fn ps).2.length = ps.length := by
  induction k generalizing fn ps with
  | zero => rfl
  | succ k ih => simp [wire, ih]

/-- `NewPipeline` starts at the first processor's `Process` (at `writeToSinks` when
there is none), keeps the sinks, and gives processor `i` the next stage as its
output. -/
theorem newPipeline_wiring (processors : List (Processor P α σ)) (sinks : List (Sink P α σ)) :
    (newPipeline processors sinks).pipelineFunc = stageAt processors.length 0 ∧
      (newPipeline processors sinks).sinks = sinks ∧
      ∀ i : Nat, (newPipeline processors sinks).processors[i]? =
        processors[i]?.map fun pr : Processor P α σ =>
          { pr with output := some (stageAt processors.length (i + 1)) } := by
  obtain ⟨h1, h2⟩ := wire_spec processors.length .writeToSinks processors
  refine ⟨?_, rfl, fun i => ?_⟩
  · simp only [newPipeline, h1, stageAt]
    split_ifs <;> first | rfl | omega
  · simp only [newPipeline, h2, stageAt]
    by_cases hi : i < processors.length
    · simp only [if_pos hi]
    · simp [hi, List.getElem?_eq_none (Nat.le_of_not_lt hi)]

/-! ## Forwarding processors -/

/-- A body that returns `e` after steps on the state alone. -/
inductive Returns (e : Option Error) : Body P α σ → Prop
  | ret : Returns e (.ret e)
  | update {f : σ → σ} {k : Body P α σ} : Returns e k → Returns e (.update f k)
  | read {k : σ → Body P α σ} : (∀ s, Returns e (k s)) → Returns e (.read k)

/-- A body that passes `r` to its output once and returns what the output returned,
with steps on the state before and after. -/
inductive Forwards (r : Resource P α) : Body P α σ → Prop
  | update {f : σ → σ} {k : Body P α σ} : Forwards r k → Forwards r (.update f k)
  | read {k : σ → Body P α σ} : (∀ s, Forwards r (k s)) → Forwards r (.read k)
  | output {k : Option Error → Body P α σ} : (∀ e, Returns e (k e)) → Forwards r (.output r k)

theorem Returns.run {e : Option Error} {b : Body P α σ} (h : Returns e b)
    (out : Resource P α → World P α σ → Option Error × World P α σ) (w : World P α σ) :
    (b.run out w).1 = e ∧ (b.run out w).2.log = w.log := by
  induction h generalizing w with
  | ret => exact ⟨rfl, rfl⟩
  | update _ ih => exact ih _
  | read _ ih => exact ih _ _

theorem Forwards.run {r : Resource P α} {b : Body P α σ} (h : Forwards r b)
    (out : Resource P α → World P α σ → Option Error × World P α σ) (w : World P α σ) :
    ∃ st, (b.run out w).1 = (out r ⟨st, w.log⟩).1 ∧
      (b.run out w).2.log = (out r ⟨st, w.log⟩).2.log := by
  induction h generalizing w with
  | update _ ih => exact ih _
  | read _ ih => exact ih _ _
  | output hk => exact ⟨w.state, (hk _).run out (out r w).2⟩

/-- The sink loop writes in order until the first failure, and returns it. -/
theorem writeSinks_spec (r : Resource P α) (j : Nat) (ss : List (Sink P α σ)) (w : World P α σ) :
    ∃ outs, FailFast ss.length outs (writeSinks r j ss w).1 ∧
      (writeSinks r j ss w).2.log = w.log ++ (outs.enumFrom j).map fun x => .write x.1 r x.2 := by
  induction ss generalizing j w with
  | nil => exact ⟨[], .nil, by simp [writeSinks]⟩
  | cons s ss ih =>
      cases he : (s.write r w.state).1 with
      | some e =>
          exact ⟨[some e], by simpa [writeSinks, he] using FailFast.fail ss.length e,
            by simp [writeSinks, he]⟩
      | none =>
          obtain ⟨outs, hff, hlog⟩ := ih (j + 1) ⟨(s.write r w.state).2, w.log ++ [.write j r none]⟩
          exact ⟨none :: outs, .ok (by simpa [writeSinks, he] using hff),
            by simp [writeSinks, he, hlog]⟩

/-- In a pipeline wired as `NewPipeline` wires it, with forwarding processors,
calling processor `i` calls it and every later processor once, in order, and then
`writeToSinks` from the state the processors left. -/
theorem call_chain (p : Pipeline P α σ)
    (hp : ∀ i pr, p.processors[i]? = some pr →
      pr.output = some (stageAt p.processors.length (i + 1)) ∧ ∀ r, Forwards r (pr.process r))
    (r : Resource P α) :
    ∀ k i fuel (w : World P α σ), i + k = p.processors.length → k < fuel →
      ∃ st, (p.call fuel (stageAt p.processors.length i) r w).1 =
          (p.writeToSinks r ⟨st, w.log ++ (List.range' i k).map (.process · r)⟩).1 ∧
        (p.call fuel (stageAt p.processors.length i) r w).2.log =
          (p.writeToSinks r ⟨st, w.log ++ (List.range' i k).map (.process · r)⟩).2.log := by
  intro k
  induction k with
  | zero =>
      intro i fuel w hi hf
      obtain ⟨fuel, rfl⟩ : ∃ f, fuel = f + 1 := ⟨fuel - 1, by omega⟩
      refine ⟨w.state, ?_⟩
      simp [stageAt, show ¬ i < p.processors.length by omega, Pipeline.call]
  | succ k ih =>
      intro i fuel w hi hf
      obtain ⟨fuel, rfl⟩ : ∃ f, fuel = f + 1 := ⟨fuel - 1, by omega⟩
      obtain ⟨pr, hpr⟩ : ∃ pr, p.processors[i]? = some pr :=
        Option.isSome_iff_exists.1 (by simp [List.getElem?_eq_getElem (show i < p.processors.length by omega)])
      obtain ⟨hout, hfwd⟩ := hp i pr hpr
      rw [stageAt, if_pos (by omega), Pipeline.call_process p fuel i pr hpr]
      obtain ⟨st₁, h1, h2⟩ := (hfwd r).run (p.outputOf fuel pr) (w.record (.process i r))
      obtain ⟨st, h3, h4⟩ := ih (i + 1) fuel ⟨st₁, w.log ++ [.process i r]⟩ (by omega) (by omega)
      refine ⟨st, ?_, ?_⟩
      · rw [h1, Pipeline.outputOf, hout]
        simpa [World.record, List.range'_succ] using h3
      · rw [h2, Pipeline.outputOf, hout]
        simpa [World.record, List.range'_succ] using h4

/-- A processor that counts, then forwards what it receives. -/
def forwardProcessor : Processor Unit Unit Nat where
  process r := .update (· + 1) (.output r .ret)
  finalize := .ret none

/-- A sink that counts its writes. -/
def countingSink : Sink Unit Unit Nat where
  write _ n := (none, n + 1)
  finalize n := (none, n)

/-- The resource is marked done: the package's wrapper with `doneMutating` set;
a value of another type has no mark to set. -/
def Resource.Done : Resource P α → Prop
  | .wrapper rw => rw.doneMutating = true
  | .other _ => True

theorem Resource.markDone_done (r : Resource P α) : r.markDone.Done := by
  cases r
  exacts [rfl, trivial]

/-- A call `Process` may make: a processor's `Process`, or a sink's `Write` of a
resource marked done. -/
def Event.ProcessCall : Event P α → Prop
  | .process _ _ => True
  | .write _ r _ => r.Done
  | .finalizeProcessor _ _ => False
  | .finalizeSink _ _ => False

/-- A step on the world that only appends calls `Process` may make to the log. -/
def Appends (f : World P α σ → Option Error × World P α σ) : Prop :=
  ∀ w, ∃ new, (f w).2.log = w.log ++ new ∧ ∀ e ∈ new, Event.ProcessCall e

theorem Body.run_appends {out : Resource P α → World P α σ → Option Error × World P α σ}
    (hout : ∀ r, Appends (out r)) (b : Body P α σ) : Appends (b.run out) := by
  induction b with
  | ret e => exact fun w => ⟨[], by simp [Body.run], by simp⟩
  | update f k ih => exact fun w => ih _
  | read k ih => exact fun w => ih _ _
  | output r k ih =>
      intro w
      obtain ⟨n₁, h₁, hp₁⟩ := hout r w
      obtain ⟨n₂, h₂, hp₂⟩ := ih (out r w).1 (out r w).2
      exact ⟨n₁ ++ n₂, by rw [Body.run, h₂, h₁, List.append_assoc],
        fun e he => (List.mem_append.1 he).elim (hp₁ e) (hp₂ e)⟩

theorem writeSinks_appends {r : Resource P α} (hr : r.Done) (j : Nat)
    (ss : List (Sink P α σ)) : Appends (writeSinks r j ss) := by
  induction ss generalizing j with
  | nil => exact fun w => ⟨[], by simp [writeSinks], by simp⟩
  | cons s ss ih =>
      intro w
      cases he : (s.write r w.state).1 with
      | some e => exact ⟨[.write j r (some e)], by simp [writeSinks, he], by simpa [Event.ProcessCall]⟩
      | none =>
          obtain ⟨new, h, hp⟩ := ih (j + 1) ⟨(s.write r w.state).2, w.log ++ [.write j r none]⟩
          refine ⟨.write j r none :: new, by simp [writeSinks, he, h], ?_⟩
          simpa [Event.ProcessCall, hr] using hp

theorem Pipeline.outputOf_appends {p : Pipeline P α σ} {fuel : Nat}
    (h : ∀ st r, Appends (p.call fuel st r)) (pr : Processor P α σ) (r : Resource P α) :
    Appends (p.outputOf fuel pr r) := by
  unfold Pipeline.outputOf
  split
  · exact h _ _
  · exact fun w => ⟨[], by simp, by simp⟩

/-- Every call reached from a stage is a processor's `Process` or a `Write` of a
resource marked done. -/
theorem Pipeline.call_appends (p : Pipeline P α σ) (fuel : Nat) :
    ∀ st r, Appends (p.call fuel st r) := by
  induction fuel with
  | zero => exact fun _ _ w => ⟨[], by simp [Pipeline.call], by simp⟩
  | succ fuel ih =>
      rintro (i | _) r w
      · cases h : p.processors[i]? with
        | none => exact ⟨[], by simp [Pipeline.call, h], by simp⟩
        | some pr =>
            obtain ⟨new, hlog, hp⟩ := Body.run_appends (Pipeline.outputOf_appends ih pr)
              (pr.process r) (w.record (.process i r))
            refine ⟨.process i r :: new, ?_, by simpa [Event.ProcessCall] using hp⟩
            rw [Pipeline.call_process p fuel i pr h, hlog]
            simp [World.record]
      · exact writeSinks_appends (Resource.markDone_done r) 0 p.sinks w

theorem newPipeline_output (processors : List (Processor P α σ)) (sinks : List (Sink P α σ))
    {i : Nat} {pr : Processor P α σ} (h : (newPipeline processors sinks).processors[i]? = some pr) :
    pr.output = some (stageAt (newPipeline processors sinks).processors.length (i + 1)) := by
  rw [(newPipeline_wiring processors sinks).2.2 i, Option.map_eq_some'] at h
  obtain ⟨q, -, rfl⟩ := h
  rw [newPipeline, wire_length]

theorem call_stageAt_fuel (p : Pipeline P α σ)
    (hp : ∀ i pr, p.processors[i]? = some pr → pr.output = some (stageAt p.processors.length (i + 1))) :
    ∀ k i, i + k = p.processors.length → ∀ fuel fuel', k < fuel → k < fuel' →
      p.call fuel (stageAt p.processors.length i) = p.call fuel' (stageAt p.processors.length i) := by
  intro k
  induction k with
  | zero =>
      rintro i hi (_ | fuel) (_ | fuel') hf hf' <;> try omega
      simp only [stageAt, show ¬ i < p.processors.length by omega, if_false]
      rfl
  | succ k ih =>
      rintro i hi (_ | fuel) (_ | fuel') hf hf' <;> try omega
      simp only [stageAt, show i < p.processors.length by omega, if_true]
      funext r w
      cases h : p.processors[i]? with
      | none => simp [Pipeline.call, h]
      | some pr =>
          have hout : p.outputOf fuel pr = p.outputOf fuel' pr := by
            funext r' w'
            rw [Pipeline.outputOf, Pipeline.outputOf, hp i pr h]
            exact congrFun (congrFun (ih (i + 1) (by omega) fuel fuel' (by omega) (by omega)) r') w'
          rw [Pipeline.call_process p fuel i pr h, Pipeline.call_process p fuel' i pr h, hout]

/-- On a pipeline built by `NewPipeline`, whatever its processors do and however often they
call their `Output`, no chain of calls from the pipeline function nests deeper than one
call per processor and `writeToSinks`: allowing any deeper nesting changes neither the
result nor the calls made. -/
theorem newPipeline_call_depth (processors : List (Processor P α σ)) (sinks : List (Sink P α σ))
    (extra : Nat) :
    (newPipeline processors sinks).call ((newPipeline processors sinks).depth + extra)
        (newPipeline processors sinks).pipelineFunc =
      (newPipeline processors sinks).call (newPipeline processors sinks).depth
        (newPipeline processors sinks).pipelineFunc := by
  have hlen : (newPipeline processors sinks).processors.length = processors.length :=
    wire_length _ _ _
  rw [(newPipeline_wiring processors sinks).1, ← hlen]
  exact call_stageAt_fuel _ (fun _ _ => newPipeline_output processors sinks)
    (newPipeline processors sinks).processors.length 0 (Nat.zero_add _) _ _
    (by simp only [Pipeline.depth]; omega) (Nat.lt_succ_self _)

/-! ## The order of the calls

`NewPipeline` applies the processing steps in the order they are passed: the calls a
`Process` makes nest as processor `0`, processor `1`, …, then the sinks. -/

/-- The calls a call of stage `i` of `n` makes, as the log records them: a call of
processor `i < n` is its `Process` entry followed by the calls its `Output` made, each
a call of stage `i + 1`; past the last processor, `writeToSinks` makes only `Write`s. -/
inductive CallTree (n : Nat) : Nat → List (Event P α) → Prop
  | sinks {i : Nat} {l : List (Event P α)} (hi : n ≤ i)
      (hw : ∀ e ∈ l, ∃ j r res, e = .write j r res) : CallTree n i l
  | process {i : Nat} {r : Resource P α} {segs : List (List (Event P α))} (hi : i < n)
      (hsegs : ∀ s ∈ segs, CallTree n (i + 1) s) : CallTree n i (.process i r :: segs.flatten)

/-- The processor a logged call enters, for a `Process` call. -/
def Event.processIndex? : Event P α → Option Nat
  | .process i _ => some i
  | _ => none

theorem getElem?_flatten_eq_some {β : Type} {l : List (List β)} {k : Nat} {x : β}
    (h : l.flatten[k]? = some x) :
    ∃ pre s post m, l = pre ++ s :: post ∧ s[m]? = some x ∧
      l.flatten.take k = pre.flatten ++ s.take m := by
  induction l generalizing k with
  | nil => simp at h
  | cons s l ih =>
      rw [List.flatten_cons] at h ⊢
      by_cases hk : k < s.length
      · refine ⟨[], s, l, k, rfl, by rwa [List.getElem?_append_left hk] at h, ?_⟩
        simp [List.take_append_eq_append_take, Nat.sub_eq_zero_of_le hk.le]
      · rw [List.getElem?_append_right (by omega)] at h
        obtain ⟨pre, s', post, m, rfl, hm, htake⟩ := ih h
        refine ⟨s :: pre, s', post, m, rfl, hm, ?_⟩
        rw [List.take_append_eq_append_take, List.take_of_length_le (by omega), htake]
        simp

/-- Before every `Write` in a call of stage `i`, stages `i, i + 1, …, n - 1` were entered,
in this order. -/
theorem CallTree.chain_before_write {n i : Nat} {l : List (Event P α)} (h : CallTree n i l)
    {k j : Nat} {r : Resource P α} {res : Option Error} (hk : l[k]? = some (.write j r res)) :
    (List.range' i (n - i)).Sublist ((l.take k).filterMap Event.processIndex?) := by
  induction h generalizing k with
  | sinks hi _ => simp [Nat.sub_eq_zero_of_le hi]
  | @process i r' segs hi hsegs ih =>
      cases k with
      | zero => simp at hk
      | succ k =>
          rw [List.getElem?_cons_succ] at hk
          obtain ⟨pre, s, post, m, rfl, hm, htake⟩ := getElem?_flatten_eq_some hk
          have hs := ih s (by simp) hm
          rw [List.take_succ_cons, List.filterMap_cons, htake, List.filterMap_append,
            show n - i = n - (i + 1) + 1 by omega, List.range'_succ]
          exact (hs.trans (List.sublist_append_right _ _)).cons_cons i

theorem Body.run_segments {out : Resource P α → World P α σ → Option Error × World P α σ}
    {Q : List (Event P α) → Prop} (hout : ∀ r w, ∃ s, (out r w).2.log = w.log ++ s ∧ Q s)
    (b : Body P α σ) (w : World P α σ) :
    ∃ segs : List (List (Event P α)), (b.run out w).2.log = w.log ++ segs.flatten ∧ ∀ s ∈ segs, Q s := by
  induction b generalizing w with
  | ret e => exact ⟨[], by simp [Body.run], by simp⟩
  | update f k ih => exact ih _
  | read k ih => exact ih _ _
  | output r k ih =>
      obtain ⟨s₁, h₁, hq₁⟩ := hout r w
      obtain ⟨segs, h₂, hq₂⟩ := ih (out r w).1 (out r w).2
      refine ⟨s₁ :: segs, ?_, ?_⟩
      · rw [Body.run, h₂, h₁, List.flatten_cons, List.append_assoc]
      · simpa [hq₁] using hq₂

theorem call_callTree (p : Pipeline P α σ)
    (hp : ∀ i pr, p.processors[i]? = some pr → pr.output = some (stageAt p.processors.length (i + 1))) :
    ∀ k i, i + k = p.processors.length → ∀ fuel, k < fuel → ∀ r w,
      ∃ new, (p.call fuel (stageAt p.processors.length i) r w).2.log = w.log ++ new ∧
        CallTree p.processors.length i new := by
  intro k
  induction k with
  | zero =>
      rintro i hi (_ | fuel) hf r w
      · omega
      simp only [stageAt, show ¬ i < p.processors.length by omega, if_false, Pipeline.call,
        Pipeline.writeToSinks]
      obtain ⟨outs, -, hlog⟩ := writeSinks_spec r.markDone 0 p.sinks w
      exact ⟨_, hlog, .sinks (by omega) fun e he => by
        obtain ⟨x, -, rfl⟩ := List.mem_map.1 he
        exact ⟨_, _, _, rfl⟩⟩
  | succ k ih =>
      rintro i hi (_ | fuel) hf r w
      · omega
      obtain ⟨pr, hpr⟩ : ∃ pr, p.processors[i]? = some pr :=
        Option.isSome_iff_exists.1 (by simp [List.getElem?_eq_getElem (show i < p.processors.length by omega)])
      simp only [stageAt, show i < p.processors.length by omega, if_true]
      rw [Pipeline.call_process p fuel i pr hpr]
      have hout : ∀ r' w', ∃ s, (p.outputOf fuel pr r' w').2.log = w'.log ++ s ∧
          CallTree p.processors.length (i + 1) s := fun r' w' => by
        rw [Pipeline.outputOf, hp i pr hpr]
        exact ih (i + 1) (by omega) fuel (by omega) r' w'
      obtain ⟨segs, hlog, hsegs⟩ := Body.run_segments hout (pr.process r) (w.record (.process i r))
      exact ⟨.process i r :: segs.flatten, by rw [hlog]; simp [World.record], .process (by omega) hsegs⟩

/-- Whatever its processors do and however often they call their `Output`, `Process` on a
pipeline built by `NewPipeline` logs a call tree: every call of processor `i` contains
only calls of processor `i + 1`, and the last processor's only `Write`s. So every `Write`
comes after calls of processors `0, 1, …, n - 1`, in this order. -/
theorem newPipeline_process_callTree (processors : List (Processor P α σ)) (sinks : List (Sink P α σ))
    (resourceType : Int) (sourceURL : String) (json : Option Bytes) (w : World P α σ) :
    ∃ new, ((newPipeline processors sinks).process resourceType sourceURL json w).2.log = w.log ++ new ∧
      CallTree processors.length 0 new ∧
      ∀ k j r res, new[k]? = some (.write j r res) →
        (List.range processors.length).Sublist ((new.take k).filterMap Event.processIndex?) := by
  have hlen : (newPipeline processors sinks).processors.length = processors.length :=
    wire_length _ _ _
  rw [Pipeline.process, (newPipeline_wiring processors sinks).1, ← hlen]
  obtain ⟨new, hlog, htree⟩ := call_callTree _ (fun _ _ => newPipeline_output processors sinks) _ 0
    (Nat.zero_add _) (newPipeline processors sinks).depth (Nat.lt_succ_self _)
    (.wrapper (.ofJSON resourceType sourceURL json)) w
  refine ⟨new, hlog, htree, fun k j r res hk => ?_⟩
  have hchain := htree.chain_before_write hk
  rwa [Nat.sub_zero, ← List.range_eq_range'] at hchain

/-! ## Finalize -/

/-- A stage whose `Finalize` the pipeline calls. -/
inductive Target
  | processor (i : Nat)
  | sink (j : Nat)
  deriving DecidableEq, Repr

/-- The `Finalize` call an event records, with its result. -/
def Event.finalized? : Event P α → Option (Target × Option Error)
  | .finalizeProcessor i e => some (.processor i, e)
  | .finalizeSink j e => some (.sink j, e)
  | _ => none

/-- The `Finalize` calls of the log, in order, with their results. -/
def World.finalizeCalls (w : World P α σ) : List (Target × Option Error) :=
  w.log.filterMap Event.finalized?

@[simp] theorem World.finalizeCalls_record (w : World P α σ) (e : Event P α) :
    (w.record e).finalizeCalls = w.finalizeCalls ++ e.finalized?.toList := by
  cases h : e.finalized? <;> simp [World.finalizeCalls, World.record, h]

/-- The processors, then the sinks: the order in which `Finalize` calls them. -/
def Pipeline.finalizeOrder (p : Pipeline P α σ) : List Target :=
  (List.range p.processors.length).map .processor ++ (List.range p.sinks.length).map .sink

theorem finalizeCalls_of_appends {f : World P α σ → Option Error × World P α σ} (hf : Appends f)
    (w : World P α σ) : (f w).2.finalizeCalls = w.finalizeCalls := by
  obtain ⟨new, hlog, hp⟩ := hf w
  have hnone : ∀ e ∈ new, e.finalized? = none := by
    intro e he
    have := hp e he
    cases e <;> simp_all [Event.finalized?, Event.ProcessCall]
  simp [World.finalizeCalls, hlog, List.filterMap_eq_nil_iff.2 hnone]

theorem finalizeProcessors_spec (p : Pipeline P α σ) (i : Nat) (prs : List (Processor P α σ))
    (w : World P α σ) :
    ∃ outs, FailFast prs.length outs (p.finalizeProcessors i prs w).1 ∧
      (p.finalizeProcessors i prs w).2.finalizeCalls =
        w.finalizeCalls ++ ((List.range' i prs.length).map .processor).zip outs := by
  induction prs generalizing i w with
  | nil => exact ⟨[], .nil, by simp [Pipeline.finalizeProcessors]⟩
  | cons pr prs ih =>
      have hrun := finalizeCalls_of_appends
        (Body.run_appends (Pipeline.outputOf_appends (p.call_appends p.depth) pr) pr.finalize) w
      cases he : (pr.finalize.run (p.outputOf p.depth pr) w).1 with
      | some e =>
          refine ⟨[some e], by simpa [Pipeline.finalizeProcessors, he] using FailFast.fail prs.length e, ?_⟩
          simp [Pipeline.finalizeProcessors, he, hrun, Event.finalized?, List.range'_succ]
      | none =>
          obtain ⟨outs, hff, hlog⟩ := ih (i + 1)
            ((pr.finalize.run (p.outputOf p.depth pr) w).2.record (.finalizeProcessor i none))
          refine ⟨none :: outs, .ok (by simpa [Pipeline.finalizeProcessors, he] using hff), ?_⟩
          simp [Pipeline.finalizeProcessors, he, hlog, hrun, Event.finalized?, List.range'_succ]

theorem finalizeSinks_spec (j : Nat) (ss : List (Sink P α σ)) (w : World P α σ) :
    ∃ outs, FailFast ss.length outs (finalizeSinks j ss w).1 ∧
      (finalizeSinks j ss w).2.finalizeCalls =
        w.finalizeCalls ++ ((List.range' j ss.length).map .sink).zip outs := by
  induction ss generalizing j w with
  | nil => exact ⟨[], .nil, by simp [finalizeSinks]⟩
  | cons s ss ih =>
      cases he : (s.finalize w.state).1 with
      | some e =>
          refine ⟨[some e], by simpa [finalizeSinks, he] using FailFast.fail ss.length e, ?_⟩
          simp [finalizeSinks, he, World.finalizeCalls, Event.finalized?, List.range'_succ]
      | none =>
          obtain ⟨outs, hff, hlog⟩ := ih (j + 1) ⟨(s.finalize w.state).2, w.log ++ [.finalizeSink j none]⟩
          refine ⟨none :: outs, .ok (by simpa [finalizeSinks, he] using hff), ?_⟩
          simp only [finalizeSinks, he, hlog]
          simp [World.finalizeCalls, Event.finalized?, List.range'_succ]

theorem zip_append_of_length_le {β γ : Type} (l₁ l₂ : List β) (l : List γ)
    (h : l.length ≤ l₁.length) : (l₁ ++ l₂).zip l = l₁.zip l := by
  induction l generalizing l₁ with
  | nil => simp
  | cons c l ih =>
      cases l₁ with
      | nil => simp at h
      | cons b l₁ => simp [ih l₁ (by simpa using h)]

end BulkFhir.Processing
