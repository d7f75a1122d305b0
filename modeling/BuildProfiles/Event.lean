/-
What happens in the course of a resolution, in order.

`Traced α` is a computation that leaves events behind and gives a value or
fails. What was left behind before a failure is kept. The log, the problems,
the calls and the requests are views of the one list of events.
-/
import BuildProfiles.Activator
import BuildProfiles.Interpolation

namespace BuildProfiles

/-- A question put to the activator at a position of the list, about a profile. -/
structure Call where
  activator : Nat
  question : Question
  profileId : Text
  deriving DecidableEq, Repr

/-- One thing that happened. -/
inductive Event where
  | requested (request : Request)
  | called (call : Call)
  | reported (problem : Problem)
  | logged (record : Log.Record)
  deriving DecidableEq

namespace Event

def call? : Event → Option Call
  | .called call => some call
  | _ => none

def problem? : Event → Option Problem
  | .reported problem => some problem
  | _ => none

/-- What the log shows of the event. A reported problem is logged as well. -/
def record? : Event → Option Log.Record
  | .reported problem => some problem.record
  | .logged record => some record
  | _ => none

end Event

/-- Events, and then a value or a failure. -/
structure Traced (α : Type) where
  events : List Event
  result : Except Failure α

namespace Traced

variable {α β : Type}

def ok (a : α) : Traced α := ⟨[], .ok a⟩

/-- One computation after the other; a failure ends both. -/
def andThen (x : Traced α) (f : α → Traced β) : Traced β :=
  match x.result with
  | .ok a => ⟨x.events ++ (f a).events, (f a).result⟩
  | .error failure => ⟨x.events, .error failure⟩

instance : Monad Traced where
  pure := ok
  bind := andThen

@[simp] theorem events_pure (a : α) : (pure a : Traced α).events = [] := rfl

@[simp] theorem result_pure (a : α) : (pure a : Traced α).result = .ok a := rfl

theorem bind_of_ok {x : Traced α} {a : α} (h : x.result = .ok a) (f : α → Traced β) :
    x >>= f = ⟨x.events ++ (f a).events, (f a).result⟩ := by
  show andThen x f = _
  rw [andThen, h]

theorem bind_of_error {x : Traced α} {failure : Failure} (h : x.result = .error failure)
    (f : α → Traced β) : x >>= f = ⟨x.events, .error failure⟩ := by
  show andThen x f = _
  rw [andThen, h]

end Traced

end BuildProfiles
