import PatternLexer.Proofs.Program

/-!
# Configurations have their scopes

A block puts back the configuration that it found, however its body ends; a thread keeps its configuration to
itself; and a cursor keeps the one that it was made with. This holds of every program, whatever its threads do in
between.

* `Thread.step_inside`: a thread gets out of a block by leaving it, and `Pool.Leaves` is how.
* `Action.perform_configs`: actions change the configuration of no cursor, and make cursors at the end.
* `Pool.run_scoped` is about all steps that threads can take.
-/

namespace PatternLexer

variable {ρ : Type}

/-! ## Blocks -/

/-- The thread leaves a block: its body is done or raises a fault, which goes on, and the previous configuration
comes back. -/
def Thread.Leaves (t t' : Thread ρ) (previous : Config) (rest : ρ → Program ρ)
    (outer : List (Program.Pending ρ)) : Prop :=
  t.pending = .block previous rest :: outer ∧ t'.config = previous ∧ t'.pending = outer ∧
    ((∃ r, t.code = .done r ∧ t'.code = rest r) ∨ ∃ e, t.code = .raise e ∧ t'.code = .raise e)

/-- A thread that is in a block stays there, however deep it goes, unless it leaves it. -/
theorem Thread.step_inside {t : Thread ρ} {previous : Config} {rest : ρ → Program ρ}
    {inner outer : List (Program.Pending ρ)} (h : t.pending = inner ++ .block previous rest :: outer)
    (cursors : List Cursor) :
    (∃ inner', (t.step cursors).1.pending = inner' ++ .block previous rest :: outer) ∨
      t.Leaves (t.step cursors).1 previous rest outer := by
  rcases t with ⟨config, code, pending⟩
  change pending = _ at h
  subst h
  -- A step puts something in front of what is pending, or takes the first of it: the block is left when it is first.
  cases code with
  | done r =>
    cases inner with
    | nil => exact .inr ⟨rfl, rfl, rfl, .inl ⟨r, rfl, rfl⟩⟩
    | cons f inner =>
      left
      cases f with
      | block => exact ⟨inner, rfl⟩
      | guard => exact ⟨inner, rfl⟩
  | raise e =>
    cases inner with
    | nil => exact .inr ⟨rfl, rfl, rfl, .inr ⟨e, rfl, rfl⟩⟩
    | cons f inner =>
      left
      cases f with
      | block => exact ⟨inner, rfl⟩
      | guard => exact ⟨inner, rfl⟩
  | act a next =>
    left
    refine ⟨inner, ?_⟩
    simp only [step]
    rcases a.perform ⟨config, cursors⟩ with ⟨e | x, ctx⟩
    · rfl
    · rfl
  | within c body rest' => exact .inl ⟨.block config rest' :: inner, rfl⟩
  | attempt body caught rest' => exact .inl ⟨.guard caught rest' :: inner, rfl⟩
  | thread body rest' => exact .inl ⟨inner, rfl⟩

/-! ## Cursors -/

/-- No operation changes the configuration of a cursor. -/
theorem Cursor.perform_config (c : Cursor) (op : Operation) : (c.perform op).1.config = c.config := by
  have hnext : c.next.2.config = c.config := by
    unfold next
    cases c.current with
    | some t => rfl
    | none => rfl
  cases op with
  | reset data info => exact (c.reset_keeps data info).2
  | next => exact hnext
  | pull =>
    change c.pull.2.config = c.config
    rw [pull_eq]
    exact hnext
  | save | has | complaint | tokens | position | buffer => rfl

namespace Action

/-- The configuration of the cursor that an action makes: the explicit one, or else that of the context, with
other transforms if some are given. -/
def Makes (a : Action) (context made : Config) : Prop :=
  match a with
  | construct _ explicit => made = explicit.getD context
  | lexCursor _ .null explicit => made = explicit.getD context
  | lexCursor _ transform explicit => ∃ transforms, Transform.normalize transform = .ok transforms ∧
      made = { explicit.getD context with transforms := some transforms }
  | _ => False

theorem choose_apply {σ : Type} (explicit : Option Config) (ctx : Context σ) :
    Contextual.choose explicit ctx = (.ok (explicit.getD ctx.config), ctx) := by
  cases explicit with
  | some c => rfl
  | none => rfl

/-- A cursor over a lexer that is compiled for it has the configuration given. -/
theorem config_of_compiled (rules : Value) (config : Config) (ctx : Context Session) {c : Cursor}
    (h : ((do return .new (← Session.run (Lexer.compileValue rules)) config : SessionM Cursor) ctx).1 = .ok c) :
    c.config = config := by
  rw [Contextual.bind_apply] at h
  generalize Session.run (Lexer.compileValue rules) ctx = outcome at h
  rcases outcome with ⟨e | lx, after⟩
  · cases h
  · cases h
    rfl

theorem makes_lexCursor {rules transform : Value} {explicit : Option Config} {ctx : Context Session} {c : Cursor}
    (h : (Session.lexCursor rules transform explicit ctx).1 = .ok c) :
    Makes (lexCursor rules transform explicit) ctx.config c.config := by
  rw [Session.lexCursor, Contextual.bind_apply, choose_apply] at h
  cases transform with
  | null => exact config_of_compiled rules _ ctx h
  | _ =>
    -- Transforms are given, so that they override those of the configuration.
    simp only [Contextual.bind_apply] at h
    generalize hnormalize : Transform.normalize _ = outcome at h
    cases outcome with
    | error e => cases h
    | ok transforms =>
      refine ⟨transforms, hnormalize, config_of_compiled rules _ ctx ?_⟩
      rw [Contextual.bind_apply]
      exact h

/-- An action leaves the configurations of cursors as they are, and may add that of one that it makes. -/
theorem perform_configs (a : Action) (ctx : Context (List Cursor)) :
    (a.perform ctx).2.state.map Cursor.config = ctx.state.map Cursor.config ∨
      ∃ made, a.Makes ctx.config made ∧
        (a.perform ctx).2.state.map Cursor.config = ctx.state.map Cursor.config ++ [made] := by
  cases a with
  | config => exact .inl rfl
  | setConfig c => exact .inl rfl
  | resetConfig => exact .inl rfl
  | construct lexer explicit =>
    right
    refine ⟨explicit.getD ctx.config, rfl, ?_⟩
    rw [perform, Contextual.bind_apply, choose_apply]
    exact List.map_append
  | lexCursor rules transform explicit =>
    cases h : (Session.lexCursor rules transform explicit ⟨ctx.config, {}⟩).1 with
    | ok c =>
      right
      refine ⟨c.config, makes_lexCursor h, ?_⟩
      simp only [perform, h, keep, List.map_append, List.map_singleton]
    | error e =>
      left
      simp only [perform, h]
  | operate n op =>
    left
    cases hc : ctx.state[n]? with
    | none => simp only [perform, hc]
    | some c =>
      -- The cursor is put back in its place with the configuration that it had.
      have hset : (ctx.state.set n (c.perform op).1).map Cursor.config = ctx.state.map Cursor.config := by
        obtain ⟨hn, rfl⟩ := List.getElem?_eq_some_iff.1 hc
        have hn' : n < (ctx.state.map Cursor.config).length := by rwa [List.length_map]
        have hsame : ctx.state[n].config = (ctx.state.map Cursor.config)[n] := by rw [List.getElem_map]
        rw [List.map_set, Cursor.perform_config, hsame, List.set_getElem_self]
      simp only [perform, hc]
      cases (c.perform op).2 <;> exact hset

end Action

/-- Threads touch cursors by actions only. -/
theorem Thread.step_cursors (t : Thread ρ) (cursors : List Cursor) :
    (t.step cursors).2.1 = cursors ∨ ∃ a rest, t.code = .act a rest ∧
      (t.step cursors).2.1 = (a.perform ⟨t.config, cursors⟩).2.state := by
  rcases t with ⟨config, code, pending⟩
  cases code with
  | act a rest =>
    right
    refine ⟨a, rest, rfl, ?_⟩
    simp only [step]
    rcases a.perform ⟨config, cursors⟩ with ⟨e | x, ctx⟩
    · rfl
    · rfl
  | done r =>
    left
    rcases pending with _ | ⟨f | f, pending⟩ <;> rfl
  | raise e =>
    left
    rcases pending with _ | ⟨f | f, pending⟩ <;> rfl
  | within c body rest => exact .inl rfl
  | attempt body caught rest => exact .inl rfl
  | thread body rest => exact .inl rfl

namespace Pool

variable {p : Pool ρ} {i : Nat}

/-- The configurations of the cursors made so far. -/
def configs (p : Pool ρ) : List Config := p.cursors.map Cursor.config

/-- The next step of the thread `i` can make a cursor with this configuration. -/
def Makes (p : Pool ρ) (i : Nat) (made : Config) : Prop :=
  ∃ t a rest, p.threads[i]? = some t ∧ t.code = .act a rest ∧ a.Makes t.config made

/-- A step leaves the configurations of cursors as they are, and may add that of one that it makes. -/
theorem step_configs (p : Pool ρ) (i : Nat) :
    (p.step i).configs = p.configs ∨ ∃ made, p.Makes i made ∧ (p.step i).configs = p.configs ++ [made] := by
  cases h : p.threads[i]? with
  | none => exact .inl (by rw [step_of_none h])
  | some t =>
    unfold configs
    rw [step_cursors h]
    rcases t.step_cursors p.cursors with hsame | ⟨a, rest, hcode, hcursors⟩
    · exact .inl (by rw [hsame])
    · rw [hcursors]
      rcases a.perform_configs ⟨t.config, p.cursors⟩ with hsame | ⟨made, hmade, hconfigs⟩
      · exact .inl hsame
      · exact .inr ⟨made, ⟨t, a, rest, h, hcode, hmade⟩, hconfigs⟩

/-- Steps change the configuration of no cursor. -/
theorem run_configs (schedule : List Nat) : ∀ (p : Pool ρ), p.configs <+: (p.run schedule).configs := by
  induction schedule with
  | nil => exact fun _ => List.prefix_rfl
  | cons i schedule ih =>
    intro p
    refine List.IsPrefix.trans ?_ (ih (p.step i))
    rcases p.step_configs i with hsame | ⟨made, -, hconfigs⟩
    · exact ⟨[], (List.append_nil _).trans hsame.symm⟩
    · exact ⟨[made], hconfigs.symm⟩

/-- A cursor was there before the steps, or one of them made it with the configuration that it has. -/
theorem run_makes (schedule : List Nat) : ∀ (p : Pool ρ) (k : Nat) (config : Config),
    (p.run schedule).configs[k]? = some config → p.configs[k]? = some config ∨
      ∃ before i after, schedule = before ++ i :: after ∧ (p.run before).cursors.length = k ∧
        (p.run before).Makes i config := by
  induction schedule with
  | nil => exact fun _ _ _ h => .inl h
  | cons i schedule ih =>
    intro p k config h
    rcases ih (p.step i) k config h with hthere | ⟨before, j, after, rfl, hlength, hmakes⟩
    · rcases p.step_configs i with hsame | ⟨made, hmade, hconfigs⟩
      · rw [hsame] at hthere
        exact .inl hthere
      · rw [hconfigs, List.getElem?_append] at hthere
        by_cases hk : k < p.configs.length
        · rw [if_pos hk] at hthere
          exact .inl hthere
        · -- It is the last one, which this very step makes.
          rw [if_neg hk] at hthere
          obtain ⟨hlast, rfl⟩ := List.getElem?_eq_some_iff.1 hthere
          rw [List.length_singleton] at hlast
          refine .inr ⟨[], i, schedule, rfl, ?_, ?_⟩
          · rw [configs, List.length_map] at hk hlast
            change p.cursors.length = k
            omega
          · rw [List.getElem_singleton]
            exact hmade
    · exact .inr ⟨i :: before, j, after, rfl, hlength, hmakes⟩

/-! ## All programs -/

/-- The thread `i` is in a block, maybe deep inside. -/
def Inside (p : Pool ρ) (i : Nat) (previous : Config) (rest : ρ → Program ρ)
    (outer : List (Program.Pending ρ)) : Prop :=
  ∃ t inner, p.threads[i]? = some t ∧ t.pending = inner ++ .block previous rest :: outer

/-- With its next step the thread `i` leaves a block. -/
def Leaves (p : Pool ρ) (i : Nat) (previous : Config) (rest : ρ → Program ρ)
    (outer : List (Program.Pending ρ)) : Prop :=
  ∃ t t', p.threads[i]? = some t ∧ (p.step i).threads[i]? = some t' ∧ t.Leaves t' previous rest outer

/-- Whatever steps are taken, a thread that is in a block stays there until it leaves it. -/
theorem Inside.run {previous : Config} {rest : ρ → Program ρ} {outer : List (Program.Pending ρ)}
    (schedule : List Nat) : ∀ {p : Pool ρ}, p.Inside i previous rest outer →
      (p.run schedule).Inside i previous rest outer ∨
        ∃ before after, schedule = before ++ i :: after ∧ (p.run before).Leaves i previous rest outer := by
  induction schedule with
  | nil => exact fun h => .inl h
  | cons j schedule ih =>
    rintro p ⟨t, inner, hthread, hpending⟩
    -- Its own steps keep it inside until one leaves, and steps of others do not move it.
    by_cases hij : i = j
    · subst hij
      rcases t.step_inside hpending p.cursors with ⟨inner', hinside⟩ | hleaves
      · rcases ih ⟨_, inner', step_self hthread, hinside⟩ with hstays | ⟨before, after, rfl, hleaves⟩
        · exact .inl hstays
        · exact .inr ⟨i :: before, after, rfl, hleaves⟩
      · exact .inr ⟨[], schedule, rfl, t, _, hthread, step_self hthread, hleaves⟩
    · have hi : i < p.threads.length := (List.getElem?_eq_some_iff.1 hthread).1
      have hinside : (p.step j).Inside i previous rest outer :=
        ⟨t, inner, (step_of_ne hi hij).trans hthread, hpending⟩
      rcases ih hinside with hstays | ⟨before, after, rfl, hleaves⟩
      · exact .inl hstays
      · exact .inr ⟨j :: before, after, rfl, hleaves⟩

/-- At any moment of any program with threads, and whatever steps its threads take from then on:

* A thread that enters a block is in it until it leaves it, and its configuration is then that of before, be it
  that the body is done or that it raises a fault, which goes on.
* A thread starts with the standard configuration, and leaves the one that started it as it is. No thread moves by
  steps of others.
* The cursors that are there keep their configurations. Each other cursor is made by one of the steps, and its
  configuration is the explicit one, or else that of the thread at this step.
* Among these steps are those that a program does if it waits for the threads that it starts. -/
theorem run_scoped (p : Pool ρ) :
    (∀ i t c body rest, p.threads[i]? = some t → t.code = .within c body rest →
      (p.step i).threads[i]? = some ⟨c, body, .block t.config rest :: t.pending⟩ ∧
      ∀ schedule, ((p.step i).run schedule).Inside i t.config rest t.pending ∨
        ∃ before after, schedule = before ++ i :: after ∧
          ((p.step i).run before).Leaves i t.config rest t.pending) ∧
    (∀ i t body rest, p.threads[i]? = some t → t.code = .thread body rest →
      (p.step i).threads[p.threads.length]? = some ⟨.standard, body, []⟩ ∧
      (p.step i).threads[i]? = some ⟨t.config, rest, t.pending⟩) ∧
    (∀ i schedule, i < p.threads.length → i ∉ schedule → (p.run schedule).threads[i]? = p.threads[i]?) ∧
    (∀ schedule, p.configs <+: (p.run schedule).configs ∧
      ∀ k config, (p.run schedule).configs[k]? = some config → p.configs[k]? = some config ∨
        ∃ before i after, schedule = before ++ i :: after ∧ (p.run before).cursors.length = k ∧
          (p.run before).Makes i config) ∧
    ∀ (program : Program ρ) (i : Nat) (s : Context (List Cursor)) (pending : List (Program.Pending ρ)),
      p.threads[i]? = some ⟨s.config, program, pending⟩ → p.cursors = s.state →
        p.Reaches i ⟨(program.run s).2.config, .ofOutcome (program.run s).1, pending⟩ (program.run s).2.state := by
  refine ⟨?_, ?_, ?_, ?_, ?_⟩
  · rintro i ⟨config, code, pending⟩ c body rest hthread hcode
    change code = _ at hcode
    subst hcode
    have hentered := step_self hthread
    exact ⟨hentered, fun schedule => Inside.run schedule ⟨_, [], hentered, rfl⟩⟩
  · rintro i ⟨config, code, pending⟩ body rest hthread hcode
    change code = _ at hcode
    subst hcode
    exact ⟨step_started hthread rfl, step_self hthread⟩
  · exact fun i schedule hi hmem => run_of_not_mem schedule hi hmem
  · exact fun schedule => ⟨run_configs schedule p, run_makes schedule p⟩
  · exact fun program i s pending hthread hcursors => program.reaches hthread hcursors

/-- A body that sets another configuration and raises a fault. -/
example (c c' : Config) (e : Fault) :
    ((⟨[⟨.standard, .within c (.act (.setConfig c') fun _ => .raise e) .done, []⟩], []⟩ : Pool Unit).run
      [0, 0, 0]).threads = [⟨.standard, .raise e, []⟩] := rfl

end Pool

end PatternLexer
