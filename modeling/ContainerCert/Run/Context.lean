import ContainerCert.Check.Engine
import ContainerCert.Text.Summary

/-!
# The context of a run

A context carries the proof that logging is set up, a signal to cancel the run, a deadline, and
the place for artifacts once there is one. Contexts are derived from one another, and those that
share a signal are cancelled together. While a run goes on, time passes and others raise signals;
what happens is laid down in advance, one event before each look at the signals.
-/

namespace ContainerCert.Run

open Check (Scope)

/-- The number of a signal. -/
abbrev Signal := Nat

/-- What happens before a look at the signals: time passes and signals are raised. -/
structure Event where
  elapsed : Nat
  raised : List Signal
  deriving DecidableEq, Repr

/-- The signals of a program and its clock. -/
structure Signals where
  raised : List Signal
  /-- How many signals there are. -/
  issued : Nat
  /-- The present time in milliseconds. -/
  now : Nat
  ahead : List Event
  deriving DecidableEq, Repr

namespace Signals

/-- Signals of which none is raised and nothing happens. -/
def quiet : Signals := ⟨[], 0, 0, []⟩

/-- A new signal. -/
def issue : StateM Signals Signal := fun signals =>
  (signals.issued, { signals with issued := signals.issued + 1 })

/-- Raise a signal. -/
def raise (signals : Signals) (signal : Signal) : Signals :=
  { signals with raised := signal :: signals.raised }

/-- Whether a signal is raised. -/
def isRaised (signals : Signals) (signal : Signal) : Bool :=
  signals.raised.contains signal

/-- Let the next event happen. -/
def advance (signals : Signals) : Signals :=
  match signals.ahead with
  | [] => signals
  | event :: ahead =>
    { signals with
      raised := event.raised ++ signals.raised
      now := signals.now + event.elapsed
      ahead }

end Signals

/-- The proof that logging is set up, with the log file if there is one. -/
structure LogContext where
  logFile : Option String
  deriving DecidableEq, Repr

/-- A context. -/
structure Context (σ : Type) where
  logger : Option LogContext
  signal : Signal
  deadline : Option Nat
  artifacts : Option (ArtifactsWriter σ)

namespace Context

variable {σ : Type}

/-- A context with nothing but a signal. -/
def fresh (signal : Signal) : Context σ :=
  ⟨none, signal, none, none⟩

/-- The context with a place for artifacts. -/
def withArtifacts (context : Context σ) (writer : ArtifactsWriter σ) : Context σ :=
  { context with artifacts := some writer }

/-- Whether the context is cancelled: by its signal, or because its deadline has come. -/
def isCancelled (context : Context σ) (signals : Signals) : Bool :=
  signals.isRaised context.signal ||
    match context.deadline with
    | none => false
    | some deadline => decide (deadline ≤ signals.now)

/-- What surrounds a run in the context, where the signals are a part of the state. -/
def scope (context : Context σ) (signals : σ → Signals) (replace : Signals → σ → σ) :
    Scope σ where
  isCancelled := fun state =>
    let after := (signals state).advance
    (context.isCancelled after, replace after state)
  artifacts := context.artifacts

/-- The log context as developers see it. -/
def logSummary (logger : LogContext) : String :=
  Text.summary "LogContext" [("log_file", Text.summaryOption (logger.logFile.map Text.quote))]

/-- The context as developers see it. -/
def summary (context : Context σ) (signals : Signals) : String :=
  Text.summary "RunContext" [
    ("logger", Text.summaryOption (context.logger.map logSummary)),
    ("cancelled", Text.summaryBool (context.isCancelled signals)),
    ("deadline", Text.summaryOption (context.deadline.map toString)),
    ("artifacts", Text.summaryOption (context.artifacts.map fun writer => Text.quote writer.path))]

end Context
end ContainerCert.Run
