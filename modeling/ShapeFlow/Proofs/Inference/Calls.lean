import ShapeFlow.Proofs.Inference.Growth

/-!
Calls that change what is staged, made one after the other whatever becomes of them. A call reaches
the one output that it addresses, and nothing else of its context. A call that fails has changed
nothing, unless it hands on both the element type and the shape of the first input: then the element
type may have been handed on before the shapes clash.
-/

namespace ShapeFlow

open Inference

/-- A call by which an inference function changes what is staged. -/
inductive Call where
  /-- One of the writes that a context offers. -/
  | write (change : Write)
  | propagateElementType (input output : Nat)
  | propagateShape (input output : Nat)
  | propagateFirstInput
  | propagateShapeAttribute (name : String) (output : Nat)

namespace Call

/-- The program that a call runs. -/
def program : Call → Inference Unit
  | .write change => perform change
  | .propagateElementType input output => Inference.propagateElementType input output
  | .propagateShape input output => Inference.propagateShape input output
  | .propagateFirstInput => Inference.propagateFirstInput
  | .propagateShapeAttribute name output => Inference.propagateShapeAttribute name output

/-- The output that a call addresses. -/
def output : Call → Nat
  | .write change => change.output
  | .propagateElementType _ output => output
  | .propagateShape _ output => output
  | .propagateFirstInput => 0
  | .propagateShapeAttribute _ output => output

end Call

namespace Context

/-- Makes calls one after the other, whatever becomes of them, with the answer to each call. -/
def callEach (context : Context) : List Call → Context × List (Except InferenceFailure Unit)
  | [] => (context, [])
  | call :: rest =>
    let first := call.program.run context
    let later := first.context.callEach rest
    (later.1, first.result :: later.2)

/-- What no call changes: the node with its inputs and the answers about its attributes, the number
of outputs, and the element types that are known. -/
structure Kept (before after : Context) : Prop where
  same : before.SameInputs after
  bindings : after.bindings = before.bindings
  attribute? : after.attribute? = before.attribute?
  hasAttribute : after.hasAttribute = before.hasAttribute
  int? : after.int? = before.int?
  ints? : after.ints? = before.ints?
  float? : after.float? = before.float?
  count : after.outputs.length = before.outputs.length
  elementType : ∀ place type, before.outputType? place = some type →
    after.outputType? place = some type

variable {before middle after : Context} {output place : Nat} {type : ElementType}

theorem Kept.refl (context : Context) : context.Kept context :=
  ⟨.refl context, rfl, rfl, rfl, rfl, rfl, rfl, rfl, fun _ _ known => known⟩

theorem Kept.trans (first : before.Kept middle) (second : middle.Kept after) :
    before.Kept after where
  same := first.same.trans second.same
  bindings := second.bindings.trans first.bindings
  attribute? := second.attribute?.trans first.attribute?
  hasAttribute := second.hasAttribute.trans first.hasAttribute
  int? := second.int?.trans first.int?
  ints? := second.ints?.trans first.ints?
  float? := second.float?.trans first.float?
  count := second.count.trans first.count
  elementType place type known := second.elementType place type (first.elementType place type known)

theorem outputType?_of_raised (raised : before.Raised TensorType.KeepsElementType after)
    (known : before.outputType? place = some type) : after.outputType? place = some type := by
  obtain ⟨current, staged, typed⟩ := Option.bind_eq_some_iff.mp known
  obtain ⟨reached, stagedAfter, keeps⟩ := raised place current staged
  exact Option.bind_eq_some_iff.mpr ⟨reached, stagedAfter, keeps type typed⟩

/-- Two contexts stage the same for every output but one. -/
def SameElsewhere (output : Nat) (before after : Context) : Prop :=
  ∀ place, place ≠ output → after.outputs[place]? = before.outputs[place]?

theorem SameElsewhere.trans (first : SameElsewhere output before middle)
    (second : SameElsewhere output middle after) : SameElsewhere output before after :=
  fun place different => (second place different).trans (first place different)

/-- An output whose element type was unknown has taken the element type of an input. -/
def HandedOn (input output : Nat) (before after : Context) : Prop :=
  ∃ current type, before.outputs[output]? = some current ∧ current.elementType = none ∧
    before.inputType? input = some type ∧
      after = before.restage output { current with elementType := some type }

/-- A write of an element type fills it in where it was unknown, and changes nothing where it was
known. -/
theorem write_elementType (accepted : before.write (.elementType output type) = .ok after) :
    after = before ∨ ∃ current, before.outputs[output]? = some current ∧
      current.elementType = none ∧
        after = before.restage output { current with elementType := some type } := by
  obtain ⟨current, updated, staged, applied, rfl⟩ := write_eq_ok_iff.mp accepted
  cases declared : current.elementType with
  | none =>
    simp only [Write.apply, declared, Except.ok.injEq] at applied
    exact .inr ⟨current, staged, declared, applied ▸ rfl⟩
  | some other =>
    simp only [Write.apply, declared] at applied
    split at applied
    · cases applied
      exact .inl (restage_self staged)
    · cases applied

theorem write_sameElsewhere {change : Write} (accepted : before.write change = .ok after) :
    SameElsewhere change.output before after := by
  obtain ⟨_, _, _, _, rfl⟩ := write_eq_ok_iff.mp accepted
  intro place different
  exact List.getElem?_set_ne different.symm

end Context

namespace Inference

variable {α β : Type} {context : Context} {output : Nat} {run : Run Unit}
  {failure : InferenceFailure}

theorem bindings_run (program : Inference α) (context : Context) :
    (program.run context).context.bindings = context.bindings := by
  refine run_preserves (fun reached => reached.bindings = context.bindings)
    (fun kept accepted => ?_) program rfl
  obtain ⟨_, _, _, _, rfl⟩ := Context.write_eq_ok_iff.mp accepted
  exact kept

theorem kept_run (program : Inference α) (context : Context) :
    context.Kept (program.run context).context := by
  have same := sameInputs_run program context
  exact {
    same
    bindings := bindings_run program context
    attribute? := funext same.attribute?_eq
    hasAttribute := funext same.hasAttribute_eq
    int? := funext same.int?_eq
    ints? := funext same.ints?_eq
    float? := funext same.float?_eq
    count := length_outputs_run program context
    elementType := fun _ _ =>
      Context.outputType?_of_raised (raises_keepsElementType program context) }

/-- A run that leaves its context alone, or does no more than one write and ends well. -/
inductive WritesOnce (context : Context) (output : Nat) : Run Unit → Prop where
  | idle (result : Except InferenceFailure Unit) :
      WritesOnce context output { context, result }
  | written {change : Write} {reached : Context} (addressed : change.output = output)
      (accepted : context.write change = .ok reached) :
      WritesOnce context output { context := reached, result := .ok () }

theorem WritesOnce.unchanged (once : WritesOnce context output run)
    (failed : run.result = .error failure) : run.context = context := by
  cases once with
  | idle => rfl
  | written => cases failed

theorem WritesOnce.sameElsewhere (once : WritesOnce context output run) :
    context.SameElsewhere output run.context := by
  cases once with
  | idle => exact fun _ _ => rfl
  | written addressed accepted => exact addressed ▸ Context.write_sameElsewhere accepted

theorem perform_writesOnce (change : Write) (context : Context) :
    WritesOnce context change.output ((perform change).run context) := by
  cases attempted : context.write change with
  | ok written =>
    rw [run_perform_of_ok attempted]
    exact .written rfl attempted
  | error failure =>
    rw [run_perform_of_error attempted]
    exact .idle _

theorem run_ask_bind (question : Context → α) (after : α → Inference β) (context : Context) :
    (ask question >>= after).run context = (after (question context)).run context :=
  rfl

theorem run_demand_bind (question : Context → Except InferenceFailure α) (after : α → Inference β)
    (context : Context) :
    (demand question >>= after).run context =
      (ofExcept (question context) >>= after).run context :=
  rfl

theorem propagateElementType_writesOnce (input output : Nat) (context : Context) :
    WritesOnce context output ((propagateElementType input output).run context) := by
  rw [propagateElementType, run_ask_bind]
  cases context.inputType? input with
  | none => exact .idle _
  | some type => exact perform_writesOnce (.elementType output type) context

theorem propagateShape_writesOnce (input output : Nat) (context : Context) :
    WritesOnce context output ((propagateShape input output).run context) := by
  rw [propagateShape, run_ask_bind]
  cases context.inputShape? input with
  | none => exact .idle _
  | some shape => exact perform_writesOnce (.refineShape output shape) context

theorem propagateShapeAttribute_writesOnce (name : String) (output : Nat) (context : Context) :
    WritesOnce context output ((propagateShapeAttribute name output).run context) := by
  rw [propagateShapeAttribute, run_demand_bind]
  cases context.ints? name with
  | error failure => exact .idle _
  | ok answer =>
    cases answer with
    | none => exact .idle _
    | some sizes =>
      change WritesOnce context output ((ofExcept (dimensionsOf sizes) >>= fun dimensions =>
        perform (.refineShape output (.ranked dimensions))).run context)
      cases dimensionsOf sizes with
      | error failure => exact .idle _
      | ok dimensions =>
        exact perform_writesOnce (.refineShape output (.ranked dimensions)) context

/-- Handing on an element type changes nothing, or it fills in an element type that was unknown. -/
theorem propagateElementType_fills (input output : Nat) (context : Context) :
    ((propagateElementType input output).run context).context = context ∨
      context.HandedOn input output ((propagateElementType input output).run context).context := by
  rw [propagateElementType, run_ask_bind]
  cases known : context.inputType? input with
  | none => exact .inl rfl
  | some type =>
    dsimp only
    cases attempted : context.write (.elementType output type) with
    | ok written =>
      rw [run_perform_of_ok attempted]
      rcases Context.write_elementType attempted with same | ⟨current, staged, unknown, same⟩
      · exact .inl same
      · exact .inr ⟨current, type, staged, unknown, known, same⟩
    | error failure =>
      rw [run_perform_of_error attempted]
      exact .inl rfl

theorem run_propagateFirstInput (context : Context) :
    propagateFirstInput.run context =
      ((propagateElementType 0 0).run context).andThen fun _ => propagateShape 0 0 :=
  run_bind (propagateElementType 0 0) (fun _ => propagateShape 0 0) context

theorem propagateFirstInput_sameElsewhere (context : Context) :
    context.SameElsewhere 0 (propagateFirstInput.run context).context := by
  have handed := (propagateElementType_writesOnce 0 0 context).sameElsewhere
  rw [run_propagateFirstInput]
  unfold Run.andThen
  split
  · exact handed
  · exact handed.trans (propagateShape_writesOnce 0 0 _).sameElsewhere

/-- Where handing on the first input fails, its element type may have been handed on. -/
theorem propagateFirstInput_failed (failed : (propagateFirstInput.run context).result =
      .error failure) :
    (propagateFirstInput.run context).context = context ∨
      context.HandedOn 0 0 (propagateFirstInput.run context).context := by
  rw [run_propagateFirstInput] at failed ⊢
  unfold Run.andThen at failed ⊢
  split at failed
  · rename_i refused
    exact .inl ((propagateElementType_writesOnce 0 0 context).unchanged refused)
  · have undone := (propagateShape_writesOnce 0 0 _).unchanged failed
    simp only [undone]
    exact propagateElementType_fills 0 0 context

end Inference

namespace Call

/-- What one call may do to a context. -/
structure Effect (call : Call) (before after : Context) (result : Except InferenceFailure Unit) :
    Prop where
  kept : before.Kept after
  /-- No output changes but the one that the call addresses. -/
  elsewhere : ∀ place, place ≠ call.output → after.outputs[place]? = before.outputs[place]?
  /-- A call that fails changes nothing, with one exception. -/
  refused : call ≠ .propagateFirstInput → ∀ failure, result = .error failure → after = before
  /-- Where handing on the first input fails, at most its element type has been handed on. -/
  halfway : call = .propagateFirstInput → ∀ failure, result = .error failure →
    after = before ∨ before.HandedOn 0 0 after
  /-- A write to an output that the node does not have fails. -/
  outOfRange : ∀ change, call = .write change → before.outputs.length ≤ change.output →
    result = .error (.noSuchOutput change.output before.outputs.length)
  /-- A write that the addressed output admits is carried out. -/
  carriedOut : ∀ change current updated, call = .write change →
    before.outputs[change.output]? = some current → change.apply current = .ok updated →
      result = .ok () ∧ after.outputs[change.output]? = some updated

theorem program_writesOnce (call : Call) (other : call ≠ .propagateFirstInput)
    (context : Context) : WritesOnce context call.output (call.program.run context) := by
  cases call with
  | write change => exact perform_writesOnce change context
  | propagateElementType input output => exact propagateElementType_writesOnce input output context
  | propagateShape input output => exact propagateShape_writesOnce input output context
  | propagateFirstInput => exact absurd rfl other
  | propagateShapeAttribute name output =>
    exact propagateShapeAttribute_writesOnce name output context

theorem sameElsewhere_program (call : Call) (context : Context) :
    context.SameElsewhere call.output (call.program.run context).context := by
  by_cases first : call = .propagateFirstInput
  · subst first
    exact propagateFirstInput_sameElsewhere context
  · exact (call.program_writesOnce first context).sameElsewhere

theorem effect_program (call : Call) (context : Context) :
    call.Effect context (call.program.run context).context (call.program.run context).result where
  kept := kept_run call.program context
  elsewhere := call.sameElsewhere_program context
  refused other failure failed := (call.program_writesOnce other context).unchanged failed
  halfway first failure failed := by
    subst first
    exact propagateFirstInput_failed failed
  outOfRange change same beyond := by
    subst same
    have missing : context.outputs[change.output]? = none := List.getElem?_eq_none_iff.mpr beyond
    have refused : context.write change =
        .error (.noSuchOutput change.output context.outputs.length) := by
      rw [Context.write, missing]
    rw [program, run_perform_of_error refused]
  carriedOut change current updated same staged applied := by
    subst same
    have accepted := Context.write_eq_ok_iff.mpr ⟨current, updated, staged, applied, rfl⟩
    rw [program, run_perform_of_ok accepted]
    exact ⟨rfl, List.getElem?_set_self (List.getElem?_eq_some_iff.mp staged).1⟩

end Call

namespace Context

variable {context : Context} {call : Call} {calls : List Call}

/-- What calls do to a context when each is made whatever became of the earlier ones. -/
structure CallsContained (context : Context) (calls : List Call) : Prop where
  answered : (context.callEach calls).2.length = calls.length
  kept : context.Kept (context.callEach calls).1
  /-- An output that no call addresses stays as it was. -/
  untouched : ∀ place, (∀ call ∈ calls, call.output ≠ place) →
    (context.callEach calls).1.outputs[place]? = context.outputs[place]?
  /-- Each call has its effect on what the earlier calls left. -/
  each : ∀ place (call : Call), calls[place]? = some call → ∃ result,
    (context.callEach calls).2[place]? = some result ∧
      call.Effect (context.callEach (calls.take place)).1
        (context.callEach (calls.take (place + 1))).1 result

theorem CallsContained.cons (rest : (call.program.run context).context.CallsContained calls) :
    context.CallsContained (call :: calls) where
  answered := congrArg Nat.succ rest.answered
  kept := (kept_run call.program context).trans rest.kept
  untouched place unaddressed := by
    simp only [List.mem_cons, forall_eq_or_imp] at unaddressed
    exact (rest.untouched place unaddressed.2).trans
      (call.sameElsewhere_program context place unaddressed.1.symm)
  each place other made := by
    cases place with
    | zero =>
      cases made
      exact ⟨_, rfl, call.effect_program context⟩
    | succ earlier => exact rest.each earlier other made

/-- Calls are contained, however many fail: each changes no more than the output that it addresses,
and nothing if it fails, but for an element type that the first input hands on. -/
theorem callEach_contained (context : Context) (calls : List Call) :
    context.CallsContained calls := by
  induction calls generalizing context with
  | nil =>
    exact {
      answered := rfl
      kept := .refl context
      untouched := fun _ _ => rfl
      each := fun _ _ made => by cases made }
  | cons call rest ih => exact (ih (call.program.run context).context).cons

/-- A first input whose shape clashes with the staged one hands on its element type and no more. -/
example :
    let context : Context := {
      node := { opType := "Relu" }
      signature := { id := { domain := "", name := "Relu", sinceVersion := 6 } }
      inputs := [some { elementType := some .float32, shape := .ranked [.size 2] }]
      outputs := [{ shape := .ranked [.size 3] }, {}] }
    (context.callEach [.propagateFirstInput, .write (.elementType 2 .float32)]).1.outputs =
      [{ elementType := some .float32, shape := .ranked [.size 3] }, {}] := by
  decide

end Context

end ShapeFlow
