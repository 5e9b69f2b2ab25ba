/-!
# Log events

What the library reports while it works: events with a level, a message and named fields.  A
`Logged` computation is a value together with the events on the way to it, in order.
-/

namespace ImageFlow

/-- How much attention an event deserves. -/
inductive LogLevel where
  | debug
  | info
  | warn
  deriving DecidableEq, Inhabited

inductive LogValue where
  | number (n : Nat)
  | text (s : String)
  deriving DecidableEq, Inhabited

structure LogEvent where
  level : LogLevel
  message : String
  fields : List (String × LogValue) := []
  deriving DecidableEq, Inhabited

/-- An event of the lowest level with text fields. -/
def LogEvent.debug (message : String) (fields : List (String × String) := []) : LogEvent :=
  ⟨.debug, message, fields.map fun (key, value) => (key, .text value)⟩

/-- An event of the middle level with text fields. -/
def LogEvent.info (message : String) (fields : List (String × String) := []) : LogEvent :=
  ⟨.info, message, fields.map fun (key, value) => (key, .text value)⟩

def LogEvent.warn (message : String) (fields : List (String × String) := []) : LogEvent :=
  ⟨.warn, message, fields.map fun (key, value) => (key, .text value)⟩

/-- A value and the events reported on the way to it. -/
structure Logged (α : Type) where
  value : α
  events : List LogEvent
  deriving Inhabited

namespace Logged

variable {α β : Type}

/-- A value that was reached silently. -/
def quiet (value : α) : Logged α :=
  ⟨value, []⟩

/-- Goes on from a value; its events come first. -/
def andThen (x : Logged α) (f : α → Logged β) : Logged β :=
  ⟨(f x.value).value, x.events ++ (f x.value).events⟩

instance : Monad Logged where
  pure := quiet
  bind := andThen

def tell (event : LogEvent) : Logged Unit :=
  ⟨(), [event]⟩

@[simp]
theorem value_bind (x : Logged α) (f : α → Logged β) : (x >>= f).value = (f x.value).value := rfl

@[simp]
theorem events_bind (x : Logged α) (f : α → Logged β) :
    (x >>= f).events = x.events ++ (f x.value).events := rfl

@[simp]
theorem value_pure (a : α) : (pure a : Logged α).value = a := rfl

@[simp]
theorem events_pure (a : α) : (pure a : Logged α).events = [] := rfl

/-- Results with the same value and the same events are the same. -/
theorem ext {x y : Logged α} (value : x.value = y.value) (events : x.events = y.events) :
    x = y := by
  cases x
  cases y
  simp_all

/-- Events add up, so the order of nesting does not matter. -/
instance : LawfulMonad Logged :=
  LawfulMonad.mk' Logged
    (fun _ => ext rfl (List.append_nil _))
    (fun _ _ => rfl)
    (fun _ _ _ => ext rfl (List.append_assoc _ _ _))
    (fun _ _ => rfl)
    (fun _ _ => rfl)
    (fun _ _ => rfl)
    (fun _ _ => rfl)

@[simp]
theorem value_map (f : α → β) (x : Logged α) : (f <$> x).value = f x.value := rfl

@[simp]
theorem events_map (f : α → β) (x : Logged α) : (f <$> x).events = x.events :=
  List.append_nil _

end Logged

end ImageFlow
