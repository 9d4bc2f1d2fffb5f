import PatternLexer.Proofs.CursorStream
import PatternLexer.Session.Run

/-!
# Programs with threads

Programs set the context configuration, make cursors and use them, run blocks under another configuration, catch
faults and start threads.

* `Program.run` is what a program does if it waits for the threads that it starts. It is put together from
  `Contextual.within`, `Contextual.inThread` and the like.
* `Pool.step` is one step of one of the threads of a pool. A block is entered in one step, which notes the
  configuration, and left in another, which puts it back; in between the other threads may take steps.
* `Program.reaches` says that a thread of a pool can do what `Program.run` says.
-/

namespace PatternLexer

namespace Contextual

variable {σ α β : Type}

/-- The outcome of a program, be it a fault. -/
def outcome (x : Contextual σ α) : Contextual σ (Except Fault α) := fun ctx => (.ok (x ctx).1, (x ctx).2)

theorem bind_apply (x : Contextual σ α) (f : α → Contextual σ β) (ctx : Context σ) :
    (x >>= f) ctx = (match x ctx with
      | (.ok a, after) => f a after
      | (.error e, after) => (.error e, after)) := by
  change ExceptT.bindCont f (x ctx).1 (x ctx).2 = _
  rcases x ctx with ⟨a | e, after⟩
  · rfl
  · rfl

end Contextual

/-! ## Actions -/

/-- What a program does in one step, besides blocks and threads. Cursors are numbered as they are made. -/
inductive Action where
  | config
  | setConfig (c : Config)
  | resetConfig
  | construct (lexer : Lexer) (explicit : Option Config)
  /-- A lexer and a cursor over it at once, with transforms that override those of the configuration. -/
  | lexCursor (rules transform : Value) (explicit : Option Config)
  | operate (cursor : Nat) (op : Cursor.Operation)

namespace Action

/-- What an action yields. -/
inductive Result where
  | done
  | config (c : Config)
  | cursor (number : Nat)
  | reply (r : Cursor.Reply)

/-- Adds a cursor to those made so far. -/
def keep (c : Cursor) : Contextual (List Cursor) Result := fun ctx =>
  (.ok (.cursor ctx.state.length), { ctx with state := ctx.state ++ [c] })

/-- Does an action. What a cursor fails with is a fault of the program. -/
def perform : Action → Contextual (List Cursor) Result
  | config => do return .config (← Contextual.config)
  | setConfig c => do
    Contextual.setConfig c
    pure .done
  | resetConfig => do
    Contextual.resetConfig
    pure .done
  | construct lexer explicit => do keep (.new lexer (← Contextual.choose explicit))
  | lexCursor rules transform explicit => fun ctx =>
    match (Session.lexCursor rules transform explicit ⟨ctx.config, {}⟩).1 with
    | .ok c => keep c ctx
    | .error e => (.error e, ctx)
  | operate n op => fun ctx =>
    match ctx.state[n]? with
    | none => (.error (.unset (toString n)), ctx)
    | some c =>
      let (c, reply) := c.perform op
      let ctx := { ctx with state := ctx.state.set n c }
      match reply with
      | .failed e => (.error e, ctx)
      | _ => (.ok (.reply reply), ctx)

end Action

/-! ## Programs -/

/-- A program whose bodies end with a value of type `ρ`. It goes on by what its steps and bodies yield. -/
inductive Program (ρ : Type) where
  | done (r : ρ)
  | raise (e : Fault)
  | act (a : Action) (rest : Action.Result → Program ρ)
  /-- Runs the body under another configuration. -/
  | within (c : Config) (body : Program ρ) (rest : ρ → Program ρ)
  /-- Runs the body, and goes on in one way if it is done and in another if it raises a fault. -/
  | attempt (body : Program ρ) (caught : Fault → Program ρ) (rest : ρ → Program ρ)
  /-- Starts a thread. -/
  | thread (body rest : Program ρ)

namespace Program

variable {ρ : Type}

/-- What a program does if it waits for the threads that it starts. Their faults are not its own. -/
def run : Program ρ → Contextual (List Cursor) ρ
  | done r => pure r
  | raise e => throw e
  | act a rest => do
    let x ← a.perform
    (rest x).run
  | within c body rest => do
    let r ← Contextual.within c body.run
    (rest r).run
  | attempt body caught rest => do
    match (← body.run.outcome) with
    | .ok r => (rest r).run
    | .error e => (caught e).run
  | thread body rest => do
    let _ ← (Contextual.inThread body.run).outcome
    rest.run

section Run

variable (ctx : Context (List Cursor))

theorem run_act (a : Action) (rest : Action.Result → Program ρ) :
    (act a rest).run ctx = (match a.perform ctx with
      | (.ok x, after) => (rest x).run after
      | (.error e, after) => (.error e, after)) := by
  rw [run, Contextual.bind_apply]
  rcases a.perform ctx with ⟨e | x, after⟩
  · rfl
  · rfl

theorem run_within (c : Config) (body : Program ρ) (rest : ρ → Program ρ) :
    (within c body rest).run ctx = (match body.run { ctx with config := c } with
      | (.ok r, after) => (rest r).run { after with config := ctx.config }
      | (.error e, after) => (.error e, { after with config := ctx.config })) := by
  rw [run, Contextual.bind_apply]
  unfold Contextual.within
  rcases body.run { ctx with config := c } with ⟨r | e, after⟩
  · rfl
  · rfl

theorem run_attempt (body : Program ρ) (caught : Fault → Program ρ) (rest : ρ → Program ρ) :
    (attempt body caught rest).run ctx = (match body.run ctx with
      | (.ok r, after) => (rest r).run after
      | (.error e, after) => (caught e).run after) := by
  rw [run, Contextual.bind_apply]
  unfold Contextual.outcome
  rcases body.run ctx with ⟨r | e, after⟩
  · rfl
  · rfl

theorem run_thread (body rest : Program ρ) :
    (thread body rest).run ctx =
      rest.run { (body.run { ctx with config := .standard }).2 with config := ctx.config } := by
  rw [run, Contextual.bind_apply]
  rfl

end Run

/-- A program that ends at once with the outcome. -/
def ofOutcome : Except Fault ρ → Program ρ
  | .ok r => done r
  | .error e => raise e

/-- What is left to do when a body ends. -/
inductive Pending (ρ : Type) where
  /-- The body of a block: the configuration goes back to the previous one, and a fault goes on. -/
  | block (previous : Config) (rest : ρ → Program ρ)
  | guard (caught : Fault → Program ρ) (rest : ρ → Program ρ)

end Program

/-! ## Threads -/

/-- A thread: its own configuration, what it does next, and what it does when the bodies end that it is in, the
innermost first. -/
structure Thread (ρ : Type) where
  config : Config
  code : Program ρ
  pending : List (Program.Pending ρ) := []

/-- The threads of a program in progress, and the cursors made so far, which they share. -/
structure Pool (ρ : Type) where
  threads : List (Thread ρ)
  cursors : List Cursor := []

variable {ρ : Type}

/-- One step of a thread: the thread and the cursors after it, and the thread that it starts. -/
def Thread.step (t : Thread ρ) (cursors : List Cursor) : Thread ρ × List Cursor × Option (Thread ρ) :=
  match t.code with
  | .done r =>
    match t.pending with
    | [] => (t, cursors, none)
    | .block previous rest :: pending => (⟨previous, rest r, pending⟩, cursors, none)
    | .guard _ rest :: pending => (⟨t.config, rest r, pending⟩, cursors, none)
  | .raise e =>
    match t.pending with
    | [] => (t, cursors, none)
    | .block previous _ :: pending => (⟨previous, .raise e, pending⟩, cursors, none)
    | .guard caught _ :: pending => (⟨t.config, caught e, pending⟩, cursors, none)
  | .act a rest =>
    let (outcome, ctx) := a.perform ⟨t.config, cursors⟩
    match outcome with
    | .ok x => (⟨ctx.config, rest x, t.pending⟩, ctx.state, none)
    | .error e => (⟨ctx.config, .raise e, t.pending⟩, ctx.state, none)
  | .within c body rest => (⟨c, body, .block t.config rest :: t.pending⟩, cursors, none)
  | .attempt body caught rest => (⟨t.config, body, .guard caught rest :: t.pending⟩, cursors, none)
  | .thread body rest => (⟨t.config, rest, t.pending⟩, cursors, some ⟨.standard, body, []⟩)

namespace Pool

/-- A step of the thread `i`, if there is one. -/
def step (p : Pool ρ) (i : Nat) : Pool ρ :=
  match p.threads[i]? with
  | none => p
  | some t =>
    let (after, cursors, started) := t.step p.cursors
    ⟨p.threads.set i after ++ started.toList, cursors⟩

/-- Steps of threads in the order given. -/
def run (p : Pool ρ) : List Nat → Pool ρ
  | [] => p
  | i :: schedule => run (p.step i) schedule

variable {p : Pool ρ} {i j : Nat} {t : Thread ρ}

theorem step_eq (h : p.threads[i]? = some t) :
    p.step i =
      ⟨p.threads.set i (t.step p.cursors).1 ++ (t.step p.cursors).2.2.toList, (t.step p.cursors).2.1⟩ := by
  unfold step
  rw [h]

theorem step_of_none (h : p.threads[i]? = none) : p.step i = p := by
  unfold step
  rw [h]

theorem step_self (h : p.threads[i]? = some t) : (p.step i).threads[i]? = some (t.step p.cursors).1 := by
  have hi : i < p.threads.length := (List.getElem?_eq_some_iff.1 h).1
  rw [step_eq h, List.getElem?_append_left (by rwa [List.length_set]), List.getElem?_set_self hi]

theorem step_cursors (h : p.threads[i]? = some t) : (p.step i).cursors = (t.step p.cursors).2.1 := by
  rw [step_eq h]

/-- The thread that is started comes last. -/
theorem step_started (h : p.threads[i]? = some t) {t' : Thread ρ} (hstarted : (t.step p.cursors).2.2 = some t') :
    (p.step i).threads[p.threads.length]? = some t' := by
  rw [step_eq h, List.getElem?_append_right (by rw [List.length_set]), List.length_set, Nat.sub_self, hstarted]
  rfl

theorem length_le_step (p : Pool ρ) (i : Nat) : p.threads.length ≤ (p.step i).threads.length := by
  cases h : p.threads[i]? with
  | none => rw [step_of_none h]
  | some t =>
    rw [step_eq h, List.length_append, List.length_set]
    exact Nat.le_add_right _ _

/-- A step of one thread leaves the others as they are. -/
theorem step_of_ne (hj : j < p.threads.length) (hij : j ≠ i) : (p.step i).threads[j]? = p.threads[j]? := by
  cases h : p.threads[i]? with
  | none => rw [step_of_none h]
  | some t =>
    rw [step_eq h, List.getElem?_append_left (by rwa [List.length_set]), List.getElem?_set_ne hij.symm]

theorem run_append (schedule schedule' : List Nat) : ∀ (p : Pool ρ),
    p.run (schedule ++ schedule') = (p.run schedule).run schedule' := by
  induction schedule with
  | nil => exact fun _ => rfl
  | cons i schedule ih => exact fun p => ih (p.step i)

theorem length_le_run (schedule : List Nat) : ∀ (p : Pool ρ), p.threads.length ≤ (p.run schedule).threads.length := by
  induction schedule with
  | nil => exact fun _ => Nat.le_refl _
  | cons i schedule ih => exact fun p => (p.length_le_step i).trans (ih (p.step i))

/-- So do steps of others, however many. -/
theorem run_of_not_mem (schedule : List Nat) : ∀ {p : Pool ρ}, j < p.threads.length → j ∉ schedule →
    (p.run schedule).threads[j]? = p.threads[j]? := by
  induction schedule with
  | nil => exact fun _ _ => rfl
  | cons i schedule ih =>
    intro p hj hmem
    rw [List.mem_cons, not_or] at hmem
    rw [run, ih (hj.trans_le (p.length_le_step i)) hmem.2, step_of_ne hj hmem.1]

/-! ## Threads do what programs say -/

/-- With steps of its own and of threads that it starts, the thread `i` can become `t`, with the cursors that are
then made. The threads that were there are left as they are. -/
def Reaches (p : Pool ρ) (i : Nat) (t : Thread ρ) (cursors : List Cursor) : Prop :=
  ∃ schedule, (p.run schedule).threads[i]? = some t ∧ (p.run schedule).cursors = cursors ∧
    ∀ j < p.threads.length, j ≠ i → (p.run schedule).threads[j]? = p.threads[j]?

theorem Reaches.refl {cursors : List Cursor} (h : p.threads[i]? = some t) (hcursors : p.cursors = cursors) :
    p.Reaches i t cursors :=
  ⟨[], h, hcursors, fun _ _ _ => rfl⟩

/-- One step, and then what can be reached from there. -/
theorem Reaches.step {t' : Thread ρ} {cursors : List Cursor} (h : (p.step i).Reaches i t' cursors) :
    p.Reaches i t' cursors := by
  rcases h with ⟨schedule, hthread, hcursors, hothers⟩
  refine ⟨i :: schedule, hthread, hcursors, fun j hj hij => ?_⟩
  rw [run, hothers j (hj.trans_le (p.length_le_step i)) hij, step_of_ne hj hij]

/-- What can be reached from what can be reached. -/
theorem Reaches.trans {t t' : Thread ρ} {cursors cursors' : List Cursor} (h : p.Reaches i t cursors)
    (hrest : ∀ {p' : Pool ρ}, p'.threads[i]? = some t → p'.cursors = cursors → p'.Reaches i t' cursors') :
    p.Reaches i t' cursors' := by
  rcases h with ⟨schedule, hthread, hcursors, hothers⟩
  rcases hrest hthread hcursors with ⟨schedule', hthread', hcursors', hothers'⟩
  refine ⟨schedule ++ schedule', ?_, ?_, fun j hj hij => ?_⟩
  · rw [run_append, hthread']
  · rw [run_append, hcursors']
  · rw [run_append, hothers' j (hj.trans_le (length_le_run schedule p)) hij, hothers j hj hij]

end Pool

namespace Program

open Pool

/-- A thread can do what its program says, and is then where the program ends. -/
theorem reaches (program : Program ρ) : ∀ {p : Pool ρ} {i : Nat} {s : Context (List Cursor)}
    {pending : List (Pending ρ)}, p.threads[i]? = some ⟨s.config, program, pending⟩ → p.cursors = s.state →
      p.Reaches i ⟨(program.run s).2.config, ofOutcome (program.run s).1, pending⟩
        (program.run s).2.state := by
  induction program with
  | done r =>
    intro p i s pending h hcursors
    exact Reaches.refl h hcursors
  | raise e =>
    intro p i s pending h hcursors
    exact Reaches.refl h hcursors
  | act a rest ih =>
    intro p i s pending h hcursors
    have hstep := step_self h
    have hcursors' := step_cursors h
    have hs : (⟨s.config, p.cursors⟩ : Context (List Cursor)) = s := by rw [hcursors]
    simp only [Thread.step, hs] at hstep hcursors'
    apply Reaches.step
    rw [run_act]
    generalize a.perform s = r at hstep hcursors' ⊢
    rcases r with ⟨e | x, after⟩
    · exact Reaches.refl hstep hcursors'
    · exact ih x hstep hcursors'
  | within c body rest ihbody ihrest =>
    intro p i s pending h hcursors
    have hbody := ihbody (s := { s with config := c }) (step_self h) ((step_cursors h).trans hcursors)
    apply Reaches.step
    rw [run_within]
    generalize body.run { s with config := c } = r at hbody ⊢
    rcases r with ⟨e | x, after⟩
    · refine hbody.trans fun hended hcursors => ?_
      apply Reaches.step
      exact Reaches.refl (step_self hended) ((step_cursors hended).trans hcursors)
    · refine hbody.trans fun hended hcursors => ?_
      apply Reaches.step
      exact ihrest x (s := { after with config := s.config }) (step_self hended)
        ((step_cursors hended).trans hcursors)
  | attempt body caught rest ihbody ihcaught ihrest =>
    intro p i s pending h hcursors
    have hbody := ihbody (s := s) (step_self h) ((step_cursors h).trans hcursors)
    apply Reaches.step
    rw [run_attempt]
    generalize body.run s = r at hbody ⊢
    rcases r with ⟨e | x, after⟩
    · refine hbody.trans fun hended hcursors => ?_
      apply Reaches.step
      exact ihcaught e (step_self hended) ((step_cursors hended).trans hcursors)
    · refine hbody.trans fun hended hcursors => ?_
      apply Reaches.step
      exact ihrest x (step_self hended) ((step_cursors hended).trans hcursors)
  | thread body rest ihbody ihrest =>
    intro p i s pending h hcursors
    have hi : i < p.threads.length := (List.getElem?_eq_some_iff.1 h).1
    obtain ⟨schedule, -, hcursors', hothers⟩ := ihbody (s := { s with config := .standard })
      (step_started h rfl) ((step_cursors h).trans hcursors)
    -- The thread that was started has come to its end, and the one that started it has not moved.
    have hwaited : ((p.step i).run schedule).threads[i]? = some ⟨s.config, rest, pending⟩ := by
      rw [hothers i (hi.trans_le (p.length_le_step i)) (Nat.ne_of_lt hi)]
      exact step_self h
    rw [run_thread]
    obtain ⟨schedule', hended, hcursors'', hothers'⟩ := ihrest
      (s := { (body.run { s with config := .standard }).2 with config := s.config }) hwaited hcursors'
    refine ⟨i :: schedule ++ schedule', ?_, ?_, fun j hj hij => ?_⟩
    · rw [run_append]
      exact hended
    · rw [run_append]
      exact hcursors''
    · have hj' := hj.trans_le (p.length_le_step i)
      rw [run_append]
      refine (hothers' j (hj'.trans_le (length_le_run schedule _)) hij).trans ?_
      rw [hothers j hj' (Nat.ne_of_lt hj), step_of_ne hj hij]

end Program

end PatternLexer
