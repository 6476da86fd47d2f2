import SuiteRunner.Json.Decode

/-!
  SuiteRunner.Retry
  ────────────────────────────────
  **HOW OFTEN A STEP IS TRIED, AND HOW LONG TO WAIT IN BETWEEN.**

  A policy gives a number of attempts, a base delay and a law of growth.  The delay after an
  attempt is the base, the base times the number of the attempt, or the base doubled with each
  attempt up to sixteen times; what does not fit 64 bits becomes the greatest number that does.
-/

namespace SuiteRunner

/-- How delays grow from one attempt to the next. -/
inductive Backoff where
  | fixed
  | linear
  | exponential
  deriving DecidableEq, Repr, Inhabited

/-- How a failing step is tried again.  `attempts` counts the first one too. -/
structure RetryPolicy where
  maxAttempts : Nat := 3
  /-- The base delay in milliseconds. -/
  delay : Nat := 1000
  backoff : Backoff := .fixed
  deriving DecidableEq, Repr, Inhabited

/-- The greatest number of milliseconds. -/
def maxMillis : Nat := 0xffffffffffffffff

/-- A product that stops at the greatest number of milliseconds. -/
def boundedProduct (a b : Nat) : Nat := min (a * b) maxMillis

namespace RetryPolicy

/-- One attempt and no delay. -/
def once : RetryPolicy := ⟨1, 0, .fixed⟩

/-- How often a step is tried at most: at least once. -/
def attempts (p : RetryPolicy) : Nat := max p.maxAttempts 1

/-- The greatest number of doublings. -/
def maxDoublings : Nat := 16

/-- **The delay in milliseconds after an attempt,** attempts being counted from one. -/
def delayAfter (p : RetryPolicy) (attempt : Nat) : Nat :=
  match p.backoff with
  | .fixed => p.delay
  | .linear => boundedProduct p.delay attempt
  | .exponential => boundedProduct p.delay (Nat.pow 2 (min (attempt - 1) maxDoublings))

end RetryPolicy

/-! ## Policies as documents. -/

open Decode

/-- The words for laws of growth. -/
def Backoff.words : List (String × Backoff) :=
  [("fixed", .fixed), ("linear", .linear), ("exponential", .exponential)]

/-- The word for a law of growth. -/
def Backoff.word : Backoff → String
  | .fixed => "fixed"
  | .linear => "linear"
  | .exponential => "exponential"

/-- Read a law of growth. -/
def Backoff.decode : Decoder Backoff := choice (Backoff.words.map Prod.fst) Backoff.words

/-- Read a policy; every field may be left out. -/
def RetryPolicy.decode : Decoder RetryPolicy := record "struct RetryPolicy" [
  may "max_attempts" nat32 fun a p => { p with maxAttempts := a },
  may "delay_ms" nat64 fun a p => { p with delay := a },
  may "backoff" Backoff.decode fun a p => { p with backoff := a }] {}

/-- The document of a policy. -/
def RetryPolicy.toJson (p : RetryPolicy) : Json := .obj [
  ("max_attempts", Json.ofNat p.maxAttempts), ("delay_ms", Json.ofNat p.delay),
  ("backoff", .str p.backoff.word)]

end SuiteRunner
