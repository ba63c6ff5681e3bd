import BenchJob.World

/-!
# What a step leaves behind

No step takes anything back: whatever log it finds, it adds the same to it and comes to the same
result. A step is therefore known by its result and its trace, the log that it leaves behind on an
empty one, and the traces of steps that follow each other stand one behind the other.

## Main definitions

- `Act.exec`: a step carried out in a state.
- `Act.result`, `Act.trace`: what a step comes to, and what it leaves behind.
- `Act.Leaves`: a step has this result and this trace, whatever log it finds.

## Main statements

- `Act.Leaves.bind_ok`, `Act.Leaves.bind_error`: one step behind another.
- `World.capture_leaves`, `World.passThrough_refused`, `World.passThrough_started`: programs that
  are run.
-/

namespace BenchJob

/-! ## Logs behind each other -/

/-- What is left behind by one job and then by another. -/
instance : Append Log where
  append a b := ⟨a.attempts ++ b.attempts, a.stdout ++ b.stdout, a.stderr ++ b.stderr⟩

namespace Log

variable (a b c : Log)

theorem append_def :
    a ++ b = ⟨a.attempts ++ b.attempts, a.stdout ++ b.stdout, a.stderr ++ b.stderr⟩ := rfl

@[simp] theorem attempts_append : (a ++ b).attempts = a.attempts ++ b.attempts := rfl

@[simp] theorem attempts_empty : Log.empty.attempts = [] := rfl

@[simp] theorem append_empty : a ++ Log.empty = a := by
  simp [append_def, Log.empty]

@[simp] theorem empty_append : Log.empty ++ a = a := rfl

theorem append_assoc : a ++ b ++ c = a ++ (b ++ c) := by
  simp [append_def]

end Log

def Log.ofAttempt (r : Request) (outcome : Except OsError Start) : Log := ⟨[(r, outcome)], [], []⟩

def Log.ofProgram (p : Program) : Log := ⟨[], p.stdout, p.stderr⟩

/-- The trace of notices: a line for each of them, if standard error is a terminal. -/
def World.told (w : World) (notices : List Notice) : Log :=
  ⟨[], [], if w.terminal then notices.flatMap fun n => Text.encode (n.line ++ "\n") else []⟩

@[simp] theorem Log.attempts_ofAttempt (r : Request) (outcome : Except OsError Start) :
    (Log.ofAttempt r outcome).attempts = [(r, outcome)] := rfl

@[simp] theorem Log.attempts_ofProgram (p : Program) : (Log.ofProgram p).attempts = [] := rfl

@[simp] theorem World.attempts_told (w : World) (notices : List Notice) :
    (w.told notices).attempts = [] := rfl

@[simp] theorem World.told_nil (w : World) : w.told [] = Log.empty := by
  simp [told, Log.empty]

/-! ## Steps -/

/-- A computation that succeeds has succeeded in its first part. -/
theorem ok_of_bind_eq_ok {ε α β : Type} {x : Except ε α} {f : α → Except ε β} {b : β}
    (h : x >>= f = .ok b) : ∃ a, x = .ok a ∧ f a = .ok b := by
  cases x with
  | error e => cases h
  | ok a => exact ⟨a, rfl, h⟩

/-- A computation that fails has failed in one of its parts. -/
theorem error_of_bind_eq_error {ε α β : Type} {x : Except ε α} {f : α → Except ε β} {e : ε}
    (h : x >>= f = .error e) : x = .error e ∨ ∃ a, x = .ok a ∧ f a = .error e := by
  cases x with
  | error first =>
    cases h
    exact .inl rfl
  | ok a => exact .inr ⟨a, rfl, h⟩

/-- A mapped computation that succeeds has succeeded before. -/
theorem ok_of_map_eq_ok {ε α β : Type} {x : Except ε α} {f : α → β} {b : β}
    (h : x.map f = .ok b) : ∃ a, x = .ok a ∧ f a = b := by
  cases x with
  | error e => cases h
  | ok a => exact ⟨a, rfl, Except.ok.inj h⟩

theorem eq_ok_of_toOption {ε α : Type} {x : Except ε α} {a : α} (h : x.toOption = some a) :
    x = .ok a := by
  cases x with
  | error e => cases h
  | ok b => exact congrArg Except.ok (Option.some.inj h)

namespace Act

variable {σ α β : Type}

def exec (a : Act σ α) (s : σ) : Except Failure α × σ := a.run.run s

theorem exec_bind (a : Act σ α) (f : α → Act σ β) (s : σ) :
    exec (a >>= f) s = match exec a s with
      | (.ok x, t) => (f x).exec t
      | (.error e, t) => (.error e, t) := by
  simp only [exec, ExceptT.run_bind, StateT.run_bind]
  rcases (a.run).run s with ⟨_ | _, t⟩ <;> rfl

theorem exec_map (a : Act σ α) (f : α → β) (s : σ) :
    exec (do return f (← a)) s = ((exec a s).1.map f, (exec a s).2) := by
  rw [exec_bind]
  rcases exec a s with ⟨_ | _, t⟩ <;> rfl

theorem exec_tryCatch (a : Act σ α) (handle : Failure → Act σ α) (s : σ) :
    exec (tryCatch a handle) s = match exec a s with
      | (.ok x, t) => (.ok x, t)
      | (.error e, t) => (handle e).exec t := by
  simp only [exec, ExceptT.run_tryCatch, StateT.run_bind]
  rcases (a.run).run s with ⟨_ | _, t⟩ <;> rfl

def result (a : Act Log α) : Except Failure α := (a.exec .empty).1

def trace (a : Act Log α) : Log := (a.exec .empty).2

/-- Whatever log the step finds, it comes to the result and adds the trace to the log. -/
def Leaves (a : Act Log α) (result : Except Failure α) (trace : Log) : Prop :=
  ∀ log, a.exec log = (result, log ++ trace)

namespace Leaves

variable {a : Act Log α} {f : α → Act Log β} {x : α} {e : Failure} {r : Except Failure β}
  {t u : Log}

theorem pure (x : α) : Leaves (Pure.pure x : Act Log α) (.ok x) .empty := by
  intro log
  rw [Log.append_empty]
  rfl

theorem throw (e : Failure) : Leaves (MonadExcept.throw e : Act Log α) (.error e) .empty := by
  intro log
  rw [Log.append_empty]
  rfl

theorem ofExcept (r : Except Failure α) : Leaves (liftM r : Act Log α) r .empty := by
  intro log
  rw [Log.append_empty]
  rfl

/-- The trace of a step that succeeds is followed by the trace of the next one. -/
theorem bind_ok (first : a.Leaves (.ok x) t) (second : (f x).Leaves r u) :
    Leaves (a >>= f) r (t ++ u) := by
  intro log
  rw [exec_bind, first log]
  simp only
  rw [second, Log.append_assoc]

/-- Nothing follows a step that fails. -/
theorem bind_error (first : a.Leaves (.error e) t) : Leaves (a >>= f) (.error e) t := by
  intro log
  rw [exec_bind, first log]

theorem map {r : Except Failure α} (h : a.Leaves r t) (g : α → β) :
    Leaves (do return g (← a)) (r.map g) t := by
  cases r with
  | error e => exact h.bind_error
  | ok x =>
    rw [← Log.append_empty t]
    exact h.bind_ok (.pure (g x))

theorem known_bind_ok {known : Except Failure α} (h : known = .ok x) (next : (f x).Leaves r u) :
    Leaves (liftM known >>= f) r u := by
  subst h
  exact (ofExcept _).bind_ok next

theorem known_bind_error {known : Except Failure α} (h : known = .error e) :
    Leaves (liftM known >>= f) (.error e) .empty := by
  subst h
  exact (ofExcept _).bind_error

/-- Nothing is caught of a step that succeeds. -/
theorem catch_ok {g : Failure → Act Log α} (h : a.Leaves (.ok x) t) :
    Leaves (tryCatch a g) (.ok x) t := by
  intro log
  rw [exec_tryCatch, h log]

/-- A failure that is caught does not undo what was done before it. -/
theorem catch_error {g : Failure → Act Log α} {s : Except Failure α}
    (first : a.Leaves (.error e) t) (second : (g e).Leaves s u) :
    Leaves (tryCatch a g) s (t ++ u) := by
  intro log
  rw [exec_tryCatch, first log]
  simp only
  rw [second, Log.append_assoc]

theorem result_eq {r : Except Failure α} (h : a.Leaves r t) : a.result = r :=
  congrArg Prod.fst (h .empty)

theorem trace_eq {r : Except Failure α} (h : a.Leaves r t) : a.trace = t :=
  congrArg Prod.snd (h .empty)

theorem self {r : Except Failure α} (h : a.Leaves r t) : a.Leaves a.result a.trace := by
  rwa [h.result_eq, h.trace_eq]

end Leaves

end Act

/-! ## Notices and programs -/

namespace World

variable (w : World)

theorem run_tell (notice : Notice) (log : Log) :
    (w.tell notice).run log = ((), log ++ w.told [notice]) := by
  unfold tell told
  split <;> simp [Log.append_def] <;> rfl

theorem tell_leaves (notice : Notice) :
    Act.Leaves (liftM (w.tell notice)) (.ok ()) (w.told [notice]) := by
  intro log
  show ((.ok ((w.tell notice).run log).1, ((w.tell notice).run log).2) :
    Except Failure Unit × Log) = _
  rw [run_tell]

variable {w} {r : Request}

theorem attempt_refused {e : OsError} (h : w.files.start r = .error e) :
    Act.Leaves (liftM (w.attempt r)) (.ok (.error e)) (.ofAttempt r (.error e)) := by
  intro log
  simp only [attempt, h, Log.ofAttempt, Log.append_def, List.append_nil]
  rfl

theorem attempt_started {start : Start} {p : Program} (h : w.files.start r = .ok (start, p)) :
    Act.Leaves (liftM (w.attempt r)) (.ok (.ok p)) (.ofAttempt r (.ok start)) := by
  intro log
  simp only [attempt, h, Log.ofAttempt, Log.append_def, List.append_nil]
  rfl

variable (w r)

def started : Except OsError Start := (w.files.start r).map (·.1)

def captured (context : String) : Except Failure String :=
  match w.files.start r with
  | .error e => .error (startFailure context e)
  | .ok (_, p) =>
    if p.ending = .exited 0 then .ok (Text.strip (Text.decodeLossy p.stdout))
    else .error (.io (context ++ " failed: " ++ errorText p.stdout p.stderr) (some context))

theorem capture_leaves (context : String) :
    (w.capture r context).Leaves (w.captured r context) (.ofAttempt r (w.started r)) := by
  rw [← Log.append_empty (.ofAttempt _ _)]
  unfold capture captured started
  cases h : w.files.start r with
  | error e => exact (attempt_refused h).bind_ok (.throw _)
  | ok found =>
    obtain ⟨start, p⟩ := found
    refine (attempt_started h).bind_ok ?_
    by_cases hp : p.ending = .exited 0
    · simp only [if_pos hp]
      exact .pure _
    · simp only [if_neg hp]
      exact .throw _

variable {w r}

/-- A program that is run for its output has to be started and to succeed. -/
theorem captured_eq_ok_iff {context text : String} :
    w.captured r context = .ok text ↔ ∃ start p, w.files.start r = .ok (start, p) ∧
      p.ending = .exited 0 ∧ text = Text.strip (Text.decodeLossy p.stdout) := by
  unfold captured
  cases w.files.start r with
  | error e => simp
  | ok found =>
    obtain ⟨start, p⟩ := found
    constructor
    · intro h
      by_cases hp : p.ending = .exited 0
      · exact ⟨start, p, rfl, hp, by simpa [hp, eq_comm] using h⟩
      · simp [hp] at h
    · rintro ⟨_, _, same, hp, rfl⟩
      cases same
      simp [hp]

theorem passThrough_refused {e : OsError} (h : w.files.start r = .error e) (context : String) :
    (w.passThrough r context).Leaves (.error (startFailure context e))
      (.ofAttempt r (.error e)) := by
  rw [← Log.append_empty (.ofAttempt _ _)]
  exact (attempt_refused h).bind_ok (.throw _)

theorem passThrough_started {start : Start} {p : Program}
    (h : w.files.start r = .ok (start, p)) (context : String) :
    (w.passThrough r context).Leaves (.ok p.ending.exitCode)
      (.ofAttempt r (.ok start) ++ .ofProgram p) := by
  refine (attempt_started h).bind_ok ?_
  intro log
  simp only [Log.ofProgram, Log.append_def, List.append_nil]
  rfl

end World

end BenchJob
