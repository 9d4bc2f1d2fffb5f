import PatternLexer.Config

/-!
# The context configuration

Programs run under a context configuration, which cursors take when they are given none. A program can read
and set it; a block runs its body under another one, and puts the old one back however the body ends; a
thread starts with the standard one and leaves that of its starter alone.
-/

namespace PatternLexer

/-- The context configuration beside the rest of a program's state. -/
structure Context (σ : Type) where
  config : Config := .standard
  state : σ

/-- A program under a context configuration. A fault keeps the state reached. -/
abbrev Contextual (σ α : Type) := ExceptT Fault (StateM (Context σ)) α

namespace Contextual

variable {σ α : Type}

/-- The context configuration. -/
def config : Contextual σ Config := return (← get).config

/-- Replaces the context configuration. -/
def setConfig (c : Config) : Contextual σ Unit := modify fun ctx => { ctx with config := c }

/-- Goes back to the standard configuration. -/
def resetConfig : Contextual σ Unit := setConfig .standard

/-- Runs the body under another configuration. -/
def within (c : Config) (body : Contextual σ α) : Contextual σ α := fun ctx =>
  let (outcome, after) := body { ctx with config := c }
  (outcome, { after with config := ctx.config })

/-- Runs the body in a thread of its own. -/
def inThread (body : Contextual σ α) : Contextual σ α := within .standard body

/-- The explicit configuration, or else that of the context. -/
def choose (explicit : Option Config) : Contextual σ Config :=
  match explicit with
  | some c => pure c
  | none => config

end Contextual

end PatternLexer
