import ProxyChain.Program.Basic

/-!
# ProxyChain.Deploy.Retry

**Trying again.** An operation that fails with an error that may pass is tried again after a delay
that grows by a factor from attempt to attempt, up to a limit, and varies a little by chance.

Delays are computed in double arithmetic, in milliseconds. A result that is no number counts as
the largest delay.
-/

namespace ProxyChain

/-- How often and how quickly an operation is tried again. Times are in milliseconds. -/
structure RetryPolicy where
  /-- The largest count of attempts; there is always one. -/
  maxAttempts : Nat := 3
  initialDelay : UInt64 := 200
  maxDelay : UInt64 := 10000
  multiplier : Float := 2.0
  /-- The part of a delay that is left to chance, from zero to one. -/
  jitter : Float := 0.1
  deriving Repr, Inhabited

/-! ### Double arithmetic -/

/-- A power by repeated squaring, the lowest bit of the exponent first. -/
def powerBySquares (result base : Float) (exponent : Nat) : Float :=
  let result := if exponent % 2 = 1 then result * base else result
  if exponent / 2 = 0 then result else powerBySquares result (base * base) (exponent / 2)
termination_by exponent
decreasing_by omega

/-- A power; a negative exponent gives the reciprocal. -/
def power (base : Float) (exponent : Int) : Float :=
  let result := powerBySquares 1.0 base exponent.natAbs
  if exponent < 0 then 1.0 / result else result

/-- The smaller of two numbers; what is no number is passed over. -/
def smaller (a b : Float) : Float :=
  if a.isNaN then b else if b < a then b else a

/-- The larger of two numbers; what is no number is passed over. -/
def larger (a b : Float) : Float :=
  if a.isNaN then b else if a < b then b else a

/-- A number moved into a range. -/
def clamp (low high x : Float) : Float :=
  if x < low then low else if high < x then high else x

namespace RetryPolicy

/-! ### Delays -/

/-- The policy with another part left to chance, moved into its range. -/
def withJitter (policy : RetryPolicy) (jitter : Float) : RetryPolicy :=
  { policy with jitter := clamp 0.0 1.0 jitter }

/-- The exponent of an attempt: its number as a signed word of 32 bits. -/
def exponent (attempt : Nat) : Int :=
  (attempt : Int).bmod UInt32.size

/-- The delay behind a failed attempt, counted from zero, given a random number. -/
def delay (policy : RetryPolicy) (attempt : Nat) (chance : Float) : UInt64 :=
  let base := policy.initialDelay.toFloat * power policy.multiplier (exponent attempt)
  let delay := smaller base policy.maxDelay.toFloat
  (larger (delay + delay * policy.jitter * (chance - 0.5)) 0.0).toUInt64

/-- The count of attempts that a policy allows. -/
def attempts (policy : RetryPolicy) : Nat :=
  max policy.maxAttempts 1

end RetryPolicy

/-- The text of a time in milliseconds: in seconds from one second on. -/
def durationText (millis : UInt64) : String :=
  let millis := millis.toNat
  if millis = 0 then "0ns"
  else if millis < 1000 then s!"{millis}ms"
  else
    let digits := (toString (1000 + millis % 1000)).toList.tail
    let kept := (digits.reverse.dropWhile (· == '0')).reverse
    let fraction := if kept.isEmpty then "" else "." ++ String.ofList kept
    s!"{millis / 1000}{fraction}s"

/-! ### Attempts -/

namespace RetryPolicy

/-- The records of a success. The first attempt goes without. -/
def successRecords (label : String) (attempt : Nat) : List Log.Record :=
  if attempt = 0 then []
  else [.info .retry s!"{label} succeeded after {attempt + 1} attempts"]

/-- The record of an error that does not pass. -/
def refusalRecord (label : String) (error : ChainError) : Log.Record :=
  .debug .retry s!"{label} failed with non-retryable error: {error.message}"

/-- The record of the last attempt that was allowed. -/
def defeatRecord (policy : RetryPolicy) (label : String) : Log.Record :=
  .error .retry s!"{label} failed after {policy.attempts} attempts"

/-- The record of an attempt behind which there is another one. -/
def delayRecord (label : String) (attempt : Nat) (error : ChainError) (delay : UInt64) :
    Log.Record :=
  .warn .retry (s!"{label} attempt {attempt + 1} failed: {error.message}, retrying in "
    ++ durationText delay)

/-- What an operation comes to that is not tried again. -/
def conclude (policy : RetryPolicy) (label : String) (attempt : Nat)
    (result : Except ChainError α) : Program (Except ChainError α) := do
  Program.log (match result with
    | .ok _ => successRecords label attempt
    | .error error =>
      [if error.isRetryable then policy.defeatRecord label else refusalRecord label error])
  return result

/-- The error in a result if another attempt may help. -/
def passing? : Except ChainError α → Option ChainError
  | .ok _ => none
  | .error error => if error.isRetryable then some error else none

/-- Logs a failed attempt and waits; the random number decides for how long. -/
def waitBehind (policy : RetryPolicy) (label : String) (attempt : Nat) (error : ChainError)
    (chance : Float) : Program Unit :=
  let delay := policy.delay attempt chance
  .record (delayRecord label attempt error delay) (.pause delay (.done ()))

/-- Tries an operation, given the number of this attempt and how many more there may be. -/
def tryFrom (policy : RetryPolicy) (label : String)
    (operation : Nat → Program (Except ChainError α)) :
    (attempt left : Nat) → Program (Except ChainError α)
  | attempt, 0 => operation attempt >>= policy.conclude label attempt
  | attempt, left + 1 => operation attempt >>= fun result =>
    match passing? result with
    | some error => .draw fun chance => policy.waitBehind label attempt error chance >>= fun _ =>
        tryFrom policy label operation (attempt + 1) left
    | none => policy.conclude label attempt result

/-- Tries an operation as often as the policy allows. The operation is told the number of the
attempt, counted from zero; the label is for the records. -/
def execute (policy : RetryPolicy) (label : String)
    (operation : Nat → Program (Except ChainError α)) : Program (Except ChainError α) :=
  policy.tryFrom label operation 0 (policy.attempts - 1)

end RetryPolicy

end ProxyChain
