import TableModel.Text

/-!
# Events

What reading and generating report on the way. An event is data; its level, its message and its
named fields are read off it.
-/

namespace TableModel

/-- How much an event matters. -/
inductive Level where
  | trace
  | debug
  | info
  | warn
  | error
  deriving DecidableEq, Repr

inductive FieldValue where
  | text (t : Text)
  | flag (b : Bool)
  | count (n : Nat)
  deriving DecidableEq, Repr

/-- Something that happened while a table was read or a model generated. -/
inductive Event where
  /-- A table declaration was read. -/
  | readTable (table : Text) (columns : Nat)
  /-- A column was left out because its name marks an index. -/
  | skippedColumn (column : Text)
  /-- A type was looked up that the catalog does not have. -/
  | missingType (key : Text)
  /-- A column got the placeholder for unknown types. -/
  | placeholderType (column type : Text) (isUnsigned : Bool)
  /-- A model was generated. -/
  | generatedModel (table model : Text) (fields : Nat) (withCruds : Bool)
  deriving DecidableEq, Repr

def Event.level : Event → Level
  | .readTable .. => .debug
  | .skippedColumn .. => .debug
  | .missingType .. => .trace
  | .placeholderType .. => .warn
  | .generatedModel .. => .debug

def Event.message : Event → Text
  | .readTable .. => "Parsed CREATE TABLE".toList
  | .skippedColumn .. => "Skipping KEY column".toList
  | .missingType .. => "No type mapping".toList
  | .placeholderType .. => "Unmapped SQL type, emitting placeholder".toList
  | .generatedModel .. => "Generated model".toList

def Event.fields : Event → List (String × FieldValue)
  | .readTable table columns => [("table", .text table), ("columns", .count columns)]
  | .skippedColumn column => [("column", .text column)]
  | .missingType key => [("key", .text key)]
  | .placeholderType column type isUnsigned =>
    [("column", .text column), ("sql_type", .text type), ("unsigned", .flag isUnsigned)]
  | .generatedModel table model fields withCruds =>
    [("table", .text table), ("model", .text model), ("fields", .count fields),
     ("cruds", .flag withCruds)]

/-- A value and the events on the way to it, in order. Computations of this kind only add events;
none can look at them or take them back. -/
structure Logged (α : Type) where
  value : α
  events : List Event

namespace Logged

variable {α β : Type}

protected def pure (a : α) : Logged α := ⟨a, []⟩

/-- One computation after another, with the events of both. -/
protected def bind (x : Logged α) (f : α → Logged β) : Logged β :=
  ⟨(f x.value).value, x.events ++ (f x.value).events⟩

instance : Monad Logged where
  pure := Logged.pure
  bind := Logged.bind

def report (event : Event) : Logged Unit := ⟨(), [event]⟩

def traverse (f : α → Logged β) : List α → Logged (List β)
  | [] => return []
  | a :: rest => do
    let b ← f a
    let bs ← traverse f rest
    return b :: bs

@[simp] theorem value_pure (a : α) : (pure a : Logged α).value = a := rfl

@[simp] theorem events_pure (a : α) : (pure a : Logged α).events = [] := rfl

@[simp] theorem value_bind (x : Logged α) (f : α → Logged β) :
    (x >>= f).value = (f x.value).value := rfl

@[simp] theorem events_bind (x : Logged α) (f : α → Logged β) :
    (x >>= f).events = x.events ++ (f x.value).events := rfl

@[simp] theorem events_report (event : Event) : (report event).events = [event] := rfl

@[simp] theorem value_traverse (f : α → Logged β) (as : List α) :
    (traverse f as).value = as.map fun a => (f a).value := by
  induction as with
  | nil => rfl
  | cons a rest ih => simp [traverse, ih]

/-- The events of a run over a list are those of its elements, in order. -/
@[simp] theorem events_traverse (f : α → Logged β) (as : List α) :
    (traverse f as).events = as.flatMap fun a => (f a).events := by
  induction as with
  | nil => rfl
  | cons a rest ih => simp [traverse, ih]

end Logged

end TableModel
