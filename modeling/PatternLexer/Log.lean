import PatternLexer.Fault

/-!
# Log records

Operations report what they did as records, in order. `Logged α` is the outcome of an operation together
with its records; the records made before a fault are kept.
-/

namespace PatternLexer

/-- How important a record is. -/
inductive Level where
  | debug
  | warning
deriving Repr, DecidableEq

/-- The part of the library that makes a record. -/
inductive Logger where
  | rules
  | scanner
  | cursor
deriving Repr, DecidableEq

/-- One record; its message is absent if it could not be put into words. -/
structure Record where
  level : Level
  logger : Logger
  message : Option String
deriving Repr, DecidableEq

/-- The name under which all loggers stand. -/
def loggerRoot : String := "lexgen"

/-- The full name of a logger: every name but the root's own and those below it is put below it. -/
def loggerName (name : String) : String :=
  if name == loggerRoot || (loggerRoot ++ ".").isPrefixOf name then name
  else loggerRoot ++ "." ++ name

/-- The full name of a part's logger. -/
def Logger.name : Logger → String
  | rules => loggerName "rules"
  | scanner => loggerName "scanner"
  | cursor => loggerName "cursor"

/-- The word for a level. -/
def Level.name : Level → String
  | debug => "DEBUG"
  | warning => "WARNING"

/-! ## Operations with records -/

/-- An outcome that passes a check is one. -/
theorem Except.exists_ok {ε α : Type} {x : Except ε α} (check : α → Bool) (h : x.toOption.any check = true) :
    ∃ a, x = .ok a ∧ check a = true := by
  cases x with
  | ok a => exact ⟨a, rfl, h⟩
  | error e => cases h

/-- The outcome of an operation and the records made on the way. -/
structure Logged (α : Type) where
  log : List Record
  result : Except Fault α

namespace Logged

variable {α β : Type}

/-- An outcome without records. -/
def ofExcept (result : Except Fault α) : Logged α := ⟨[], result⟩

/-- Makes one record. -/
def note (r : Record) : Logged Unit := ⟨[r], .ok ()⟩

/-- Goes on unless the operation failed. -/
def bind (x : Logged α) (f : α → Logged β) : Logged β :=
  match x.result with
  | .ok a => ⟨x.log ++ (f a).log, (f a).result⟩
  | .error e => ⟨x.log, .error e⟩

instance : Monad Logged where
  pure a := ⟨[], .ok a⟩
  bind := bind

/-- Records do not touch what comes of operations one after the other. -/
theorem result_bind (x : Logged α) (f : α → Logged β) :
    (x >>= f).result = x.result >>= fun a => (f a).result := by
  change (x.bind f).result = _
  rw [bind]
  cases x.result with
  | ok a => rfl
  | error e => rfl

theorem result_ofExcept (result : Except Fault α) : (ofExcept result).result = result := rfl

/-- Operations one after the other go well if each does. -/
theorem bind_eq_ok {x : Logged α} {f : α → Logged β} {b : β} :
    (x >>= f).result = .ok b ↔ ∃ a, x.result = .ok a ∧ (f a).result = .ok b := by
  rw [result_bind]
  cases x.result with
  | ok a => simp [Bind.bind, Except.bind]
  | error e => simp [Bind.bind, Except.bind]

/-- They fail if one of them does. -/
theorem bind_eq_error {x : Logged α} {f : α → Logged β} {e : Fault} :
    (x >>= f).result = .error e ↔
      x.result = .error e ∨ ∃ a, x.result = .ok a ∧ (f a).result = .error e := by
  rw [result_bind]
  cases x.result with
  | ok a => simp [Bind.bind, Except.bind]
  | error e => simp [Bind.bind, Except.bind]

/-- The same where records were made on the way. -/
theorem exists_ok (x : Logged α) (check : α → Bool) (h : x.result.toOption.any check = true) :
    ∃ a, x.result = .ok a ∧ check a = true :=
  Except.exists_ok check h

end Logged

end PatternLexer
