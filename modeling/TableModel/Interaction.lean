import TableModel.Files

/-!
# Interactions

What a program does to its surroundings is a tree of requests, each with what follows on its answer,
that ends in a result or in a failure. `runIn` answers the requests from given surroundings: a file
tree, the standard input and what has been written to the standard output.

What takes a content may give out while it does. A `Capacity` says how much the storage takes for
each file and how much the standard output takes in all. Up to there the content has gone where it
should, and stays there, before the program learns that it is not all. So a file that was opened for
writing has lost what it had even if none of the new content is taken.
-/

namespace TableModel

/-- A program that ends in an `α` or fails with an `ε`. A reading request is answered with what is
read, a writing one with whether all of it is written. -/
inductive Interaction (ε α : Type) where
  | done (result : α)
  | fail (failure : ε)
  | readFile (path : Text) (next : Reading → Interaction ε α)
  | readInput (next : ByteArray → Interaction ε α)
  | writeFile (path : Text) (bytes : ByteArray) (next : Bool → Interaction ε α)
  /-- Writes to the standard output, which may keep back what stands behind the last line end. -/
  | print (bytes : ByteArray) (next : Bool → Interaction ε α)
  /-- Asks the standard output to keep nothing back. -/
  | flush (next : Bool → Interaction ε α)

/-- How many bytes are taken before there is an error: for the content of the file at a location, and
by the standard output from its beginning. Without a number there is no end to it. -/
structure Capacity where
  storage : Location → Option Nat
  output : Option Nat

def Capacity.unlimited : Capacity := ⟨fun _ => none, none⟩

/-- What a program runs in: the file tree, the standard input, and what has been written to the
standard output. An input that cannot be read is told of like one that is no text. -/
structure Surroundings where
  files : Files
  input : ByteArray
  output : ByteArray

def lineBytes (bytes : ByteArray) : Nat :=
  (bytes.data.toList.reverse.dropWhile (· ≠ 10)).length

namespace Surroundings

/-- Writes a file as far as the storage takes the content. Where the file cannot be opened nothing
happens to it. -/
def writeFile (surroundings : Surroundings) (storage : Location → Option Nat) (path : Text)
    (bytes : ByteArray) : Bool × Surroundings :=
  match surroundings.files.create? path with
  | none => (false, surroundings)
  | some location =>
    match (storage location).filter (· < bytes.size) with
    | none => (true, { surroundings with files := surroundings.files.put location bytes })
    | some room =>
      (false, { surroundings with files := surroundings.files.put location (bytes.extract 0 room) })

/-- Writes to the standard output as far as that takes the whole lines. What stands behind the last
line end can wait. -/
def print (surroundings : Surroundings) (room : Option Nat) (bytes : ByteArray) :
    Bool × Surroundings :=
  let before := surroundings.output.size
  match room.filter (0 < lineBytes bytes && · < before + lineBytes bytes) with
  | none => (true, { surroundings with output := surroundings.output ++ bytes })
  | some room =>
    (false, { surroundings with output := surroundings.output ++ bytes.extract 0 (room - before) })

def flush (surroundings : Surroundings) (room : Option Nat) : Bool × Surroundings :=
  match room.filter (· < surroundings.output.size) with
  | none => (true, surroundings)
  | some room => (false, { surroundings with output := surroundings.output.extract 0 room })

end Surroundings

namespace Interaction

variable {ε α β : Type}

protected def bind (x : Interaction ε α) (f : α → Interaction ε β) : Interaction ε β :=
  match x with
  | .done result => f result
  | .fail failure => .fail failure
  | .readFile path next => .readFile path fun reading => (next reading).bind f
  | .readInput next => .readInput fun bytes => (next bytes).bind f
  | .writeFile path bytes next => .writeFile path bytes fun isWritten => (next isWritten).bind f
  | .print bytes next => .print bytes fun isWritten => (next isWritten).bind f
  | .flush next => .flush fun isWritten => (next isWritten).bind f

instance : Monad (Interaction ε) where
  pure := .done
  bind := Interaction.bind

def ofExcept : Except ε α → Interaction ε α
  | .ok result => .done result
  | .error failure => .fail failure

def mapFailure {δ : Type} (f : ε → δ) : Interaction ε α → Interaction δ α
  | .done result => .done result
  | .fail failure => .fail (f failure)
  | .readFile path next => .readFile path fun reading => (next reading).mapFailure f
  | .readInput next => .readInput fun bytes => (next bytes).mapFailure f
  | .writeFile path bytes next =>
    .writeFile path bytes fun isWritten => (next isWritten).mapFailure f
  | .print bytes next => .print bytes fun isWritten => (next isWritten).mapFailure f
  | .flush next => .flush fun isWritten => (next isWritten).mapFailure f

/-- What becomes of a program in its surroundings, and what it leaves behind. Without another
capacity nothing gives out. -/
def runIn (surroundings : Surroundings) (x : Interaction ε α)
    (capacity : Capacity := .unlimited) : Except ε α × Surroundings :=
  match x with
  | .done result => (.ok result, surroundings)
  | .fail failure => (.error failure, surroundings)
  | .readFile path next => (next (surroundings.files.read path)).runIn surroundings capacity
  | .readInput next => (next surroundings.input).runIn surroundings capacity
  | .writeFile path bytes next =>
    let (isWritten, after) := surroundings.writeFile capacity.storage path bytes
    (next isWritten).runIn after capacity
  | .print bytes next =>
    let (isWritten, after) := surroundings.print capacity.output bytes
    (next isWritten).runIn after capacity
  | .flush next =>
    let (isWritten, after) := surroundings.flush capacity.output
    (next isWritten).runIn after capacity

/-- The result of a computation leaves the surroundings as they are. -/
theorem runIn_ofExcept (surroundings : Surroundings) (capacity : Capacity)
    (result : Except ε α) :
    (ofExcept result).runIn surroundings capacity = (result, surroundings) := by
  cases result <;> rfl

/-- A program goes on where the one before it ended. -/
theorem runIn_bind (surroundings : Surroundings) (capacity : Capacity) (x : Interaction ε α)
    (f : α → Interaction ε β) :
    (x >>= f).runIn surroundings capacity =
      match x.runIn surroundings capacity with
      | (.ok result, after) => (f result).runIn after capacity
      | (.error failure, after) => (.error failure, after) := by
  change (x.bind f).runIn surroundings capacity = _
  induction x generalizing surroundings with
  | done result => rfl
  | fail failure => rfl
  | readFile path next ih => exact ih _ surroundings
  | readInput next ih => exact ih _ surroundings
  | writeFile path bytes next ih => exact ih _ _
  | print bytes next ih => exact ih _ _
  | flush next ih => exact ih _ _

/-- Another word for a failure changes nothing else. -/
theorem runIn_mapFailure {δ : Type} (surroundings : Surroundings) (capacity : Capacity)
    (f : ε → δ) (x : Interaction ε α) :
    (x.mapFailure f).runIn surroundings capacity =
      ((x.runIn surroundings capacity).1.mapError f,
        (x.runIn surroundings capacity).2) := by
  induction x generalizing surroundings with
  | done result => rfl
  | fail failure => rfl
  | readFile path next ih => exact ih _ surroundings
  | readInput next ih => exact ih _ surroundings
  | writeFile path bytes next ih => exact ih _ _
  | print bytes next ih => exact ih _ _
  | flush next ih => exact ih _ _

end Interaction

end TableModel
