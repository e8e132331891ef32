import BulkFhir.Basic

/-! # `MultiWriteCloser`

Package `iohelpers` wraps a list of `io.WriteCloser`s into one. Writers may share
what they write to, so each call acts on one state `σ` of all of them; the log
records every call made on a writer with what it returned.

`Write` gives the bytes to the writers in order and stops at the first that fails
or writes short; `Close` closes every writer and joins the messages of those that
failed.
-/

namespace BulkFhir.IoHelpers

/-- A call made on writer `i`, with what it returned. -/
inductive Call
  | write (i : Nat) (n : Int) (err : Option Error)
  | close (i : Nat) (err : Option Error)
  deriving DecidableEq, Repr

/-- The writers' shared state, and the calls made on them. -/
structure World (σ : Type) where
  state : σ
  log : List Call

/-- An `io.WriteCloser`. -/
structure WriteCloser (σ : Type) where
  write : Bytes → σ → (Int × Option Error) × σ
  close : σ → Option Error × σ

/-- `MultiWriteCloser`. -/
structure MultiWriteCloser (σ : Type) where
  writerClosers : List (WriteCloser σ)

variable {σ : Type}

/-- `Add`. -/
def MultiWriteCloser.add (m : MultiWriteCloser σ) (wc : WriteCloser σ) : MultiWriteCloser σ :=
  { writerClosers := m.writerClosers ++ [wc] }

/-- `io.ErrShortWrite`. -/
def errShortWrite : Error := .plain "short write"

/-- The loop of `Write` from writer `i`. -/
def writeLoop (p : Bytes) : Nat → List (WriteCloser σ) → World σ → (Int × Option Error) × World σ
  | _, [], w => ((p.length, none), w)
  | i, wc :: ws, w =>
      let res := wc.write p w.state
      let w' : World σ := ⟨res.2, w.log ++ [.write i res.1.1 res.1.2]⟩
      match res.1 with
      | (n, some e) => ((n, some e), w')
      | (n, none) =>
          if n ≠ p.length then ((n, some errShortWrite), w') else writeLoop p (i + 1) ws w'

/-- `Write`. -/
def MultiWriteCloser.write (m : MultiWriteCloser σ) (p : Bytes) (w : World σ) :
    (Int × Option Error) × World σ :=
  writeLoop p 0 m.writerClosers w

/-- The loop of `Close` from writer `i`: close each writer, collecting the messages of
those that fail. -/
def closeLoop : Nat → List (WriteCloser σ) → World σ → List String × World σ
  | _, [], w => ([], w)
  | i, wc :: ws, w =>
      let res := wc.close w.state
      let rest := closeLoop (i + 1) ws ⟨res.2, w.log ++ [.close i res.1]⟩
      match res.1 with
      | some e => (e.message :: rest.1, rest.2)
      | none => rest

/-- `Close`: `errors.New(strings.Join(errStrings, ","))` when some writer failed. -/
def MultiWriteCloser.close (m : MultiWriteCloser σ) (w : World σ) : Option Error × World σ :=
  let res := closeLoop 0 m.writerClosers w
  if res.1.length ≠ 0 then (some (.plain (",".intercalate res.1)), res.2) else (none, res.2)

/-! ## `Write` is fail-fast -/

/-- Why a writer's answer stops `Write`: the writer's own error, or a count other
than the length of the bytes. -/
def writeFailure (p : Bytes) : Int × Option Error → Option Error
  | (_, some e) => some e
  | (n, none) => if n ≠ p.length then some errShortWrite else none

theorem writeFailure_eq_none_iff (p : Bytes) (o : Int × Option Error) :
    writeFailure p o = none ↔ o = ((p.length : Int), none) := by
  obtain ⟨n, _ | e⟩ := o <;> simp [writeFailure]

theorem writeLoop_cons (p : Bytes) (i : Nat) (wc : WriteCloser σ) (ws : List (WriteCloser σ))
    (w : World σ) :
    writeLoop p i (wc :: ws) w =
      match writeFailure p (wc.write p w.state).1 with
      | some e => (((wc.write p w.state).1.1, some e),
          ⟨(wc.write p w.state).2, w.log ++ [.write i (wc.write p w.state).1.1 (wc.write p w.state).1.2]⟩)
      | none => writeLoop p (i + 1) ws
          ⟨(wc.write p w.state).2, w.log ++ [.write i (wc.write p w.state).1.1 (wc.write p w.state).1.2]⟩ := by
  simp only [writeLoop]
  generalize wc.write p w.state = r
  obtain ⟨⟨n, _ | e⟩, s'⟩ := r
  · by_cases hn : n = p.length <;> simp [writeFailure, hn]
  · rfl

theorem writeLoop_spec (p : Bytes) (i : Nat) (ws : List (WriteCloser σ)) (w : World σ) :
    ∃ outs : List (Int × Option Error),
      FailFast ws.length (outs.map (writeFailure p)) (writeLoop p i ws w).1.2 ∧
      (writeLoop p i ws w).2.log = w.log ++ (outs.enumFrom i).map (fun x => .write x.1 x.2.1 x.2.2) ∧
      ((writeLoop p i ws w).1 = ((p.length : Int), none) ∨
        ∃ pre o, outs = pre ++ [o] ∧ (writeLoop p i ws w).1 = (o.1, writeFailure p o) ∧
          (writeFailure p o).isSome) := by
  induction ws generalizing i w with
  | nil => exact ⟨[], .nil, by simp [writeLoop], .inl rfl⟩
  | cons wc ws ih =>
      rw [writeLoop_cons]
      cases hf : writeFailure p (wc.write p w.state).1 with
      | some e =>
          exact ⟨[(wc.write p w.state).1], by simpa [hf] using FailFast.fail ws.length e, by simp,
            .inr ⟨[], _, rfl, by simp [hf], by simp [hf]⟩⟩
      | none =>
          obtain ⟨outs, hff, hlog, hres⟩ := ih (i + 1) _
          refine ⟨(wc.write p w.state).1 :: outs, by simpa [hf] using hff.ok, by simp [hlog], ?_⟩
          rcases hres with hres | ⟨pre, o, rfl, hres, hs⟩
          · exact .inl hres
          · exact .inr ⟨_ :: pre, o, rfl, hres, hs⟩

theorem closeLoop_cons (i : Nat) (wc : WriteCloser σ) (ws : List (WriteCloser σ)) (w : World σ) :
    closeLoop i (wc :: ws) w =
      (((wc.close w.state).1.toList.map Error.message ++
          (closeLoop (i + 1) ws ⟨(wc.close w.state).2, w.log ++ [.close i (wc.close w.state).1]⟩).1),
        (closeLoop (i + 1) ws ⟨(wc.close w.state).2, w.log ++ [.close i (wc.close w.state).1]⟩).2) := by
  simp only [closeLoop]
  generalize wc.close w.state = r
  obtain ⟨_ | e, s⟩ := r <;> rfl

theorem closeLoop_spec (i : Nat) (ws : List (WriteCloser σ)) (w : World σ) :
    ∃ outs : List (Option Error), outs.length = ws.length ∧
      (closeLoop i ws w).2.log = w.log ++ (outs.enumFrom i).map (fun x => .close x.1 x.2) ∧
      (closeLoop i ws w).1 = (outs.filterMap id).map Error.message := by
  induction ws generalizing i w with
  | nil => exact ⟨[], rfl, by simp [closeLoop], rfl⟩
  | cons wc ws ih =>
      obtain ⟨outs, hlen, hlog, hmsg⟩ :=
        ih (i + 1) ⟨(wc.close w.state).2, w.log ++ [.close i (wc.close w.state).1]⟩
      refine ⟨(wc.close w.state).1 :: outs, by simp [hlen], by simp [closeLoop_cons, hlog], ?_⟩
      rw [closeLoop_cons, hmsg]
      cases (wc.close w.state).1 <;> rfl

theorem writeLoop_append (p : Bytes) (i : Nat) (ws ws' : List (WriteCloser σ)) (w : World σ) :
    writeLoop p i (ws ++ ws') w =
      match (writeLoop p i ws w).1.2 with
      | none => writeLoop p (i + ws.length) ws' (writeLoop p i ws w).2
      | some _ => writeLoop p i ws w := by
  induction ws generalizing i w with
  | nil => simp [writeLoop]
  | cons wc ws ih =>
      rw [List.cons_append, writeLoop_cons, writeLoop_cons]
      cases writeFailure p (wc.write p w.state).1 with
      | some e => rfl
      | none => rw [ih, List.length_cons, Nat.add_assoc, Nat.add_comm 1]

theorem intercalate_go_append_singleton (acc sep x : String) (l : List String) :
    String.intercalate.go acc sep (l ++ [x]) = String.intercalate.go acc sep l ++ sep ++ x := by
  induction l generalizing acc with
  | nil => rfl
  | cons a l ih => exact ih _

theorem closeLoop_append (i : Nat) (ws ws' : List (WriteCloser σ)) (w : World σ) :
    closeLoop i (ws ++ ws') w =
      ((closeLoop i ws w).1 ++ (closeLoop (i + ws.length) ws' (closeLoop i ws w).2).1,
        (closeLoop (i + ws.length) ws' (closeLoop i ws w).2).2) := by
  induction ws generalizing i w with
  | nil => simp [closeLoop]
  | cons wc ws ih =>
      rw [List.cons_append, closeLoop_cons, closeLoop_cons, ih, List.length_cons,
        Nat.add_assoc, Nat.add_comm 1, List.append_assoc]

/-- `Close` after `Add(wc)` is `Close` on the earlier writers, then `wc.Close()` from the
state they left; the error joins their message and `wc`'s with `","` when both failed. -/
theorem close_add (m : MultiWriteCloser σ) (wc : WriteCloser σ) (w : World σ) :
    (m.add wc).close w =
      (match (m.close w).1, (wc.close (m.close w).2.state).1 with
        | none, none => none
        | none, some e => some (.plain e.message)
        | some e₁, none => some e₁
        | some e₁, some e₂ => some (.plain (e₁.message ++ "," ++ e₂.message)),
        ⟨(wc.close (m.close w).2.state).2,
          (m.close w).2.log ++ [.close m.writerClosers.length (wc.close (m.close w).2.state).1]⟩) := by
  have hsnd : (m.close w).2 = (closeLoop 0 m.writerClosers w).2 := by
    simp only [MultiWriteCloser.close]; split <;> rfl
  rw [hsnd]
  unfold MultiWriteCloser.close MultiWriteCloser.add
  rw [closeLoop_append, Nat.zero_add]
  generalize closeLoop 0 m.writerClosers w = r
  obtain ⟨msgs, w'⟩ := r
  simp only [closeLoop]
  cases hc : (wc.close w'.state).1 with
  | none => cases msgs <;> simp
  | some e =>
      obtain _ | ⟨a, msgs⟩ := msgs <;>
        simp [String.intercalate, String.intercalate.go, intercalate_go_append_singleton,
          Error.message]

/-- A writer that fails with an empty message still counts: the joined message starts with
the separator. -/
example :
    ((⟨[⟨fun _ s => ((0, none), s), fun s => (some (.plain ""), s)⟩,
        ⟨fun _ s => ((0, none), s), fun s => (none, s)⟩,
        ⟨fun _ s => ((0, none), s), fun s => (some (.plain "disk full"), s)⟩]⟩ :
        MultiWriteCloser Unit).close ⟨(), []⟩).1 = some (.plain ",disk full") := by
  decide

end BulkFhir.IoHelpers
