/-!
# Trying again

A connection that cannot be made is tried again after a while, a given number of times. The first
wait is the given one, and every further wait doubles a factor that is kept in 32 bits
(`Catalogue.Retry.factor`); the wait itself has to fit the 64 bits of a number of seconds. The
failures are counted in 32 bits as well, before they are compared with the number of times
(`Catalogue.Retry.turn`): who may try again as often as such a count can say is never told to stop.
-/

namespace Catalogue

/-- How often to try **again**, and how long to wait first. -/
structure Retry where
  /-- How often to try again. -/
  times : UInt32
  /-- The seconds before the first new attempt. -/
  delay : UInt64
  deriving DecidableEq

namespace Retry

/-- What the attempts **come to**. -/
inductive Outcome (ε α : Type) where
  /-- One of them succeeded. -/
  | connected (a : α)
  /-- The last one failed. -/
  | failed (e : ε)
  /-- A wait, or the failures, were too many to be counted. -/
  | overflow
  deriving DecidableEq

/-- What happened: how many attempts were made, the waits between them, and what they came to. -/
structure Course (ε α : Type) where
  /-- The number of attempts. -/
  attempts : Nat
  /-- The waits between them, in seconds. -/
  waits : List Nat
  /-- What they came to. -/
  outcome : Outcome ε α
  deriving DecidableEq

/-- The factor of the wait behind the first `failures + 1` attempts: a power of two, in 32 bits. -/
def factor (failures : Nat) : UInt32 :=
  if failures < 32 then UInt32.ofNat (Nat.pow 2 failures) else 0

/-- The wait behind the first `failures + 1` attempts, if it can be counted. -/
def wait? (r : Retry) (failures : Nat) : Option Nat :=
  let seconds := r.delay.toNat * (factor failures).toNat
  if seconds < UInt64.size then some seconds else none

variable {ε α : Type}

/-- What **one attempt** leads to. -/
inductive Turn (ε α : Type) where
  /-- The attempts are over. -/
  | over (o : Outcome ε α)
  /-- There is another one after a wait, in seconds. -/
  | again (wait : Nat)
  deriving DecidableEq

/-- What an attempt leads to behind so many failures. If it fails it is one of them, and that may
take their count back to zero. -/
def turn (r : Retry) (failures : UInt32) : Except ε α → Turn ε α
  | .ok a => .over (.connected a)
  | .error e =>
    let failures := failures + 1
    if r.times < failures then .over (.failed e)
    else
      match r.wait? (failures.toNat - 1) with
      | none => .over .overflow
      | some w => .again w

/-- Go on behind some attempts that have failed, with so many more at most. If there are none, the
last wait is not one between two attempts. -/
def goOn (r : Retry) (attempt : Nat → Except ε α) : Nat → Nat → List Nat → Course ε α
  | 0, made, waits => ⟨made, waits.tail.reverse, .overflow⟩
  | most + 1, made, waits =>
    match r.turn (UInt32.ofNat made) (attempt made) with
    | .over o => ⟨made + 1, waits.reverse, o⟩
    | .again w => goOn r attempt most (made + 1) (w :: waits)

/-- **Try, and try again**: what comes of the attempts, which are numbered from zero. The course is
shown as far as its attempts can be counted; they may go on from there. -/
def run (r : Retry) (attempt : Nat → Except ε α) : Course ε α :=
  goOn r attempt (r.times.toNat + 1) 0 []

end Retry

end Catalogue
