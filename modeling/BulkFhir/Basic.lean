import Mathlib.Data.List.Basic

/-! # Errors, times and fail-fast loops

The package's sentinel errors (the `var` block at the top of `bulkfhir/client.go`)
and the Go `error` values built from them. `errors.Is` sees through the one `%w`
that `fmt.Errorf` adds; errors of collaborators (`net/http`, `encoding/json`,
`strconv`, the `fhir` package) wrap no sentinel of this package, and are kept
by their text only.

`FailFast` describes every loop of the repository that calls a list of stages
in order and returns the first error: sink writes, the two finalize phases and
`MultiWriteCloser.Write`.
-/

namespace BulkFhir

/-- The sentinel errors declared by `bulkfhir`. -/
inductive Sentinel
  | unimplemented
  | unableToParseProgress
  | unauthorized
  | timeout
  | unexpectedStatusCode
  | greaterThanOneContentLocation
  | unexpectedNumberOfXProgress
  | retryableHTTPStatus
  deriving DecidableEq, Repr

/-- The `errors.New` text of each sentinel. -/
def Sentinel.text : Sentinel → String
  | .unimplemented => "method not implemented yet"
  | .unableToParseProgress => "unable to parse progress out of X-Progress header"
  | .unauthorized => "server indicates this client is unauthorized"
  | .timeout => "this operation timed out"
  | .unexpectedStatusCode => "unexpected non-ok or non-accecpted HTTP status code"
  | .greaterThanOneContentLocation => "greater than 1 Content-Location header"
  | .unexpectedNumberOfXProgress => "unexpected number of x-progress headers"
  | .retryableHTTPStatus => "this is a retryable but unexpected HTTP status code error"

/-- A Go `error` value: a sentinel itself, `fmt.Errorf("<pre>%w", .., s)` with the
formatted text before the verb, or an error wrapping no sentinel. -/
inductive Error
  | sentinel (s : Sentinel)
  | wrapped (pre : String) (s : Sentinel)
  | plain (text : String)
  deriving DecidableEq, Repr

/-- `err.Error()`. -/
def Error.message : Error → String
  | .sentinel s => s.text
  | .wrapped pre s => pre ++ s.text
  | .plain text => text

/-- `errors.Is(err, s)`. -/
def Error.is : Error → Sentinel → Bool
  | .sentinel s', s => s' = s
  | .wrapped _ s', s => s' = s
  | .plain _, _ => false

@[simp] theorem Error.is_sentinel (s s' : Sentinel) : (Error.sentinel s').is s = decide (s' = s) :=
  rfl

@[simp] theorem Error.is_wrapped (pre : String) (s s' : Sentinel) :
    (Error.wrapped pre s').is s = decide (s' = s) :=
  rfl

@[simp] theorem Error.is_plain (text : String) (s : Sentinel) : (Error.plain text).is s = false :=
  rfl

/-- `ErrorUnauthorized`. -/
def errorUnauthorized : Error := .sentinel .unauthorized

/-- `ErrorTimeout`. -/
def errorTimeout : Error := .sentinel .timeout

/-- A `time.Time`, as nanoseconds since Go's zero time. -/
structure Time where
  nanos : Int
  deriving DecidableEq, Repr

/-- A `time.Duration` in nanoseconds. -/
abbrev Duration := Int

/-- `t.IsZero()`. -/
def Time.isZero (t : Time) : Bool := t.nanos = 0

/-- `t.Add(d)`. -/
def Time.add (t : Time) (d : Duration) : Time := ⟨t.nanos + d⟩

/-- `t.Before(u)`. -/
def Time.before (t u : Time) : Bool := t.nanos < u.nanos

/-- A Go `[]byte`. -/
abbrev Bytes := List UInt8

/-- The value of a run of decimal digits. -/
def digitsValue (ds : List Char) : Nat :=
  ds.foldl (fun n d => 10 * n + (d.toNat - '0'.toNat)) 0

/-! ## Fail-fast loops -/

/-- `FailFast total outs ret`: a loop over `total` calls, stopping at the first that
fails, made the calls whose results are `outs`, in order, and returned `ret`. -/
inductive FailFast : Nat → List (Option Error) → Option Error → Prop
  | nil : FailFast 0 [] none
  | fail (total : Nat) (e : Error) : FailFast (total + 1) [some e] (some e)
  | ok {total : Nat} {outs : List (Option Error)} {ret : Option Error} :
      FailFast total outs ret → FailFast (total + 1) (none :: outs) ret

namespace FailFast

variable {total : Nat} {outs : List (Option Error)} {ret : Option Error}

theorem length_le (h : FailFast total outs ret) : outs.length ≤ total := by
  induction h with
  | nil => rfl
  | fail => simp
  | ok _ ih => simpa using ih

/-- Success means every one of the `total` calls was made and succeeded. -/
theorem ret_eq_none_iff (h : FailFast total outs ret) :
    ret = none ↔ outs = List.replicate total none := by
  induction h with
  | nil => simp
  | fail => simp [List.replicate_succ]
  | ok _ ih => simp [ih, List.replicate_succ]

/-- A failure is the last call made, after calls that all succeeded. -/
theorem of_ret_eq_some {e : Error} (h : FailFast total outs ret) (he : ret = some e) :
    ∃ pre, outs = pre ++ [some e] ∧ ∀ x ∈ pre, x = none := by
  induction h with
  | nil => cases he
  | fail => cases he; exact ⟨[], rfl, by simp⟩
  | ok _ ih =>
      obtain ⟨pre, rfl, hpre⟩ := ih he
      exact ⟨none :: pre, rfl, by simpa using hpre⟩

/-- A loop that failed still fails as the first part of a longer one. -/
theorem extend_of_ret_eq_some {e : Error} (h : FailFast total outs (some e)) (m : Nat) :
    FailFast (total + m) outs (some e) := by
  generalize he : some e = ret at h
  induction h with
  | nil => cases he
  | fail total e' => simpa [Nat.add_right_comm] using FailFast.fail (total + m) e'
  | ok _ ih => simpa [Nat.add_right_comm] using (ih he).ok

theorem replicate_append (n : Nat) (h : FailFast total outs ret) :
    FailFast (n + total) (List.replicate n none ++ outs) ret := by
  induction n with
  | zero => simpa using h
  | succ n ih => simpa [Nat.add_right_comm, List.replicate_succ] using ih.ok

end FailFast

end BulkFhir
