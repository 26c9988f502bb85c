import ShapeFlow.Inference.Context

/-!
Inference functions as programs of a few instructions. A program may look at its context, write to
the staged outputs and leave notes, and it can do nothing else, so whatever is proved of the
instructions holds of every inference function.
-/

namespace ShapeFlow

/-- A program that ends with an answer or fails. -/
inductive Inference (α : Type) where
  | done (answer : α)
  | fail (failure : InferenceFailure)
  /-- Looks at the context. -/
  | inspect (next : Context → Inference α)
  /-- Attempts a write and goes on with its result. -/
  | write (change : Write) (next : Except InferenceFailure Unit → Inference α)
  /-- Leaves a note for whoever runs the program. -/
  | note (text : String) (next : Inference α)

namespace Inference

variable {α β : Type}

protected def bind (program : Inference α) (after : α → Inference β) : Inference β :=
  match program with
  | .done answer => after answer
  | .fail failure => .fail failure
  | .inspect next => .inspect fun context => (next context).bind after
  | .write change next => .write change fun result => (next result).bind after
  | .note text next => .note text (next.bind after)

instance : Monad Inference where
  pure := .done
  bind := Inference.bind

/-- Turns a failure of the program into an answer. Its writes stay. -/
def attempt : Inference α → Inference (Except InferenceFailure α)
  | .done answer => .done (.ok answer)
  | .fail failure => .done (.error failure)
  | .inspect next => .inspect fun context => (next context).attempt
  | .write change next => .write change fun result => (next result).attempt
  | .note text next => .note text next.attempt

/-- Answers with what a question about the context yields. -/
def ask (question : Context → α) : Inference α :=
  .inspect fun context => .done (question context)

/-- Goes on with an answer or fails with a failure. -/
def ofExcept : Except InferenceFailure α → Inference α
  | .ok answer => .done answer
  | .error failure => .fail failure

/-- Answers a question that may fail. -/
def demand (question : Context → Except InferenceFailure α) : Inference α :=
  .inspect fun context => ofExcept (question context)

/-- Writes, and fails if the write is refused. -/
def perform (change : Write) : Inference Unit :=
  .write change ofExcept

/-- What a run leaves behind. The context keeps the writes made before a failure. -/
structure Run (α : Type) where
  context : Context
  notes : List String := []
  result : Except InferenceFailure α

/-- Runs a program on a context. -/
def run : Inference α → Context → Run α
  | .done answer, context => { context, result := .ok answer }
  | .fail failure, context => { context, result := .error failure }
  | .inspect next, context => (next context).run context
  | .write change next, context =>
    match context.write change with
    | .ok written => (next (.ok ())).run written
    | .error failure => (next (.error failure)).run context
  | .note text next, context =>
    let rest := next.run context
    { rest with notes := text :: rest.notes }

/-- What a run and the program that follows it leave behind together. Nothing follows a failure. -/
def Run.andThen (first : Run α) (after : α → Inference β) : Run β :=
  match first.result with
  | .error failure => { context := first.context, notes := first.notes, result := .error failure }
  | .ok answer =>
    let rest := (after answer).run first.context
    { rest with notes := first.notes ++ rest.notes }

private theorem andThen_note (first : Run α) (text : String) (after : α → Inference β) :
    Run.andThen { first with notes := text :: first.notes } after =
      { first.andThen after with notes := text :: (first.andThen after).notes } := by
  cases ended : first.result <;> simp [Run.andThen, ended]

theorem run_bind (program : Inference α) (after : α → Inference β) (context : Context) :
    (program.bind after).run context = (program.run context).andThen after := by
  induction program generalizing context with
  | done answer => simp [Inference.bind, run, Run.andThen]
  | fail failure => rfl
  | inspect next ih => exact ih context context
  | write change next ih =>
    simp only [Inference.bind, run]
    split
    · exact ih _ _
    · exact ih _ _
  | note text next ih => simp only [Inference.bind, run, ih, andThen_note]

/-- An attempt leaves behind what the program does and answers with its result. -/
theorem run_attempt (program : Inference α) (context : Context) :
    program.attempt.run context =
      { context := (program.run context).context
        notes := (program.run context).notes
        result := .ok (program.run context).result } := by
  induction program generalizing context with
  | done answer => rfl
  | fail failure => rfl
  | inspect next ih => exact ih context context
  | write change next ih =>
    simp only [attempt, run]
    split
    · exact ih _ _
    · exact ih _ _
  | note text next ih => simp only [attempt, run, ih]

end Inference

/-- How an inference function ends when it does not fail. -/
inductive InferenceOutcome where
  /-- The outputs follow from what is known. -/
  | inferred
  /-- The shape depends on contents known only when the graph is executed. -/
  | deferred
deriving DecidableEq

/-- A named program that infers the outputs of an operator. -/
structure InferenceFunction where
  name : String
  program : Inference InferenceOutcome

end ShapeFlow
