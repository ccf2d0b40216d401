import FunctionLoad.Log.Level

/-!
# Logged results

* `Log.Event`: a level and a message.
* `Logged`: a value with the events that were raised on the way to it, in order.
* `Logged.upTo`: the same value with the more severe events only.
* **`Logged.events_bind`**: events of a later step follow those of an earlier one.
-/

namespace FunctionLoad

/-- An event for the log. -/
structure Log.Event where
  level : Log.Level
  message : String
  deriving Repr, DecidableEq

/-- An event as a line: its level and its message. -/
def Log.Event.line (e : Log.Event) : String :=
  e.level.name ++ " " ++ e.message

/-- A value with the events raised on the way to it, in order. -/
structure Logged (α : Type) where
  value : α
  events : List Log.Event
  deriving Repr

namespace Logged

/-- A value without events. -/
def silent {α : Type} (a : α) : Logged α :=
  ⟨a, []⟩

/-- What follows from a logged value. -/
def andThen {α β : Type} (x : Logged α) (f : α → Logged β) : Logged β :=
  let y := f x.value
  ⟨y.value, x.events ++ y.events⟩

instance : Monad Logged where
  pure := silent
  bind := andThen

/-- Raises one event. -/
def note (level : Log.Level) (message : String) : Logged Unit :=
  ⟨(), [⟨level, message⟩]⟩

/-- Raises one event if a condition holds. -/
def noteIf (condition : Bool) (level : Log.Level) (message : String) : Logged Unit :=
  if condition then note level message else silent ()

/-- The same value with no events but those that are at least as severe as a level. -/
def upTo {α : Type} (level : Log.Level) (x : Logged α) : Logged α :=
  ⟨x.value, x.events.filter fun e => e.level.number ≤ level.number⟩

@[simp] theorem value_pure {α : Type} (a : α) : (pure a : Logged α).value = a := rfl

@[simp] theorem events_pure {α : Type} (a : α) : (pure a : Logged α).events = [] := rfl

@[simp] theorem value_bind {α β : Type} (x : Logged α) (f : α → Logged β) :
    (x >>= f).value = (f x.value).value := rfl

/-- **Events of a later step follow those of an earlier one.** -/
@[simp] theorem events_bind {α β : Type} (x : Logged α) (f : α → Logged β) :
    (x >>= f).events = x.events ++ (f x.value).events := rfl

@[simp] theorem events_map {α β : Type} (f : α → β) (x : Logged α) :
    (f <$> x).events = x.events := by
  show x.events ++ [] = _
  simp

end Logged

end FunctionLoad
