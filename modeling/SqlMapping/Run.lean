/-!
# Runs

A run has a result or a failure, and a trace: the entries recorded on the way to it. When a run is
followed by another one, their traces follow each other, also when the second run fails.
-/

namespace SqlMapping

/-- A result, or a reason why there is none, and the trace of a run. -/
structure Run (ω ε α : Type) where
  /-- The result. -/
  result : Except ε α
  /-- The entries recorded, the oldest first. -/
  trace : List ω

namespace Run

variable {ω ε α β : Type}

/-- A result with an empty trace. -/
def ofExcept (x : Except ε α) : Run ω ε α :=
  ⟨x, []⟩

/-- The run that records one entry. -/
def emit (entry : ω) : Run ω ε Unit :=
  ⟨.ok (), [entry]⟩

/-- The run that goes on with the result of another one. -/
def andThen (x : Run ω ε α) (f : α → Run ω ε β) : Run ω ε β :=
  match x.result with
  | .ok a => ⟨(f a).result, x.trace ++ (f a).trace⟩
  | .error e => ⟨.error e, x.trace⟩

instance : Monad (Run ω ε) where
  pure a := ⟨.ok a, []⟩
  bind := andThen

instance : MonadExceptOf ε (Run ω ε) where
  throw e := ⟨.error e, []⟩
  tryCatch x handle := match x.result with
    | .ok _ => x
    | .error e => ⟨(handle e).result, x.trace ++ (handle e).trace⟩

@[simp] theorem result_pure (a : α) : (pure a : Run ω ε α).result = .ok a := rfl

@[simp] theorem trace_pure (a : α) : (pure a : Run ω ε α).trace = [] := rfl

@[simp] theorem result_emit (entry : ω) : (emit entry : Run ω ε Unit).result = .ok () := rfl

@[simp] theorem trace_emit (entry : ω) : (emit entry : Run ω ε Unit).trace = [entry] := rfl

@[simp] theorem result_throw (e : ε) : (throw e : Run ω ε α).result = .error e := rfl

@[simp] theorem trace_throw (e : ε) : (throw e : Run ω ε α).trace = [] := rfl

/-- The result of a run that is followed by another one. -/
@[simp] theorem result_bind (x : Run ω ε α) (f : α → Run ω ε β) :
    (x >>= f).result = x.result >>= fun a => (f a).result := by
  show (andThen x f).result = _
  unfold andThen
  cases x.result <;> rfl

/-- After a result, the entries of the run that follows are added to those of the first one. -/
theorem trace_bind_of_ok {x : Run ω ε α} {a : α} (f : α → Run ω ε β) (h : x.result = .ok a) :
    (x >>= f).trace = x.trace ++ (f a).trace := by
  show (andThen x f).trace = _
  simp [andThen, h]

/-- After a failure, nothing more is recorded. -/
theorem trace_bind_of_error {x : Run ω ε α} {e : ε} (f : α → Run ω ε β)
    (h : x.result = .error e) : (x >>= f).trace = x.trace := by
  show (andThen x f).trace = _
  simp [andThen, h]

end Run

end SqlMapping
