import Boardwright.Collector
import Boardwright.Walk.Plan

/-!
# Visitors

A visitor answers the calls of a walk.  It keeps a state, may report recoverable faults and may
stop the walk.  Whatever it reports is attributed to the backend it works for.
-/

namespace Boardwright

/-- The answer to a call. -/
structure Answer (σ : Type) where
  state : σ
  /-- Recoverable faults and the nodes they belong to. -/
  reports : List (Fault × Pos) := []
  /-- The reason to stop the walk. -/
  stop : Option Fault := none

structure Visitor (σ : Type) where
  start : σ
  /-- Answers a call, given the board and the identifiers handed out so far. -/
  visit : Board → Counters → Call → σ → Answer σ

/-- How far a walk has come. -/
structure Progress (σ : Type) where
  state : σ
  /-- Recoverable faults, attributed, in order. -/
  collected : List Fault := []
  /-- The fault that stopped the walk. -/
  abort : Option Fault := none
  counters : Counters := {}

/-- A fault that stops a walk, as it is returned: structured and attributed. -/
def Fault.stopping (f : Fault) (backend : String) (pos : Pos) : Fault :=
  let f := if f.first?.isSome then f
    else .report { phase := .traverse, kind := .invariant, detail := "backend aborted" } (some f)
  f.attributed backend pos

namespace Visitor

variable {σ : Type}

/-- Keeps a fault at its place. -/
def keep (backend : String) (p : Progress σ) (f : Fault) (pos : Pos) : Progress σ :=
  { p with collected := p.collected ++ Collector.entries backend f pos }

/-- Takes one step. -/
def perform (v : Visitor σ) (backend : String) (b : Board) (p : Progress σ) (s : Step) :
    Progress σ :=
  let p := { p with counters := s.counters }
  match s.action with
  | .report f => keep backend p f s.pos
  | .halt f => { p with abort := some (f.stopping backend s.pos) }
  | .call c =>
    let answer := v.visit b s.counters c p.state
    let p := answer.reports.foldl (fun p (f, pos) => keep backend p f pos)
      { p with state := answer.state }
    { p with abort := answer.stop.map (·.stopping backend s.pos) }

/-- Takes step after step until one stops the walk. -/
def follow (v : Visitor σ) (backend : String) (b : Board) : List Step → Progress σ → Progress σ
  | [], p => p
  | s :: rest, p =>
    let p := v.perform backend b p s
    if p.abort.isSome then p else v.follow backend b rest p

/-- Walks a board in the name of a backend. -/
def walk (v : Visitor σ) (backend : String) (b : Board) : Progress σ :=
  v.follow backend b b.steps { state := v.start }

/-- The visitor that does nothing. -/
def idle : Visitor Unit where
  start := ()
  visit _ _ _ _ := { state := () }

end Visitor

end Boardwright
