/-
  Routines: lists of commands that may wait. A hook or the body of a scope is run as a routine, which
  goes on from where it stands each time it is polled.
-/
import HostBench.Scenario.Clocks

namespace HostBench.Scenario

/-- What a routine waits for. -/
inductive Hold where
  | future (f : Future)
  /-- It waits for ever. -/
  | never

/-- A routine: on whose behalf it runs, what it waits for, and what is left to do after that. -/
structure Routine where
  source : Source
  hold : Option Hold
  rest : List Command

/-- What a routine command comes to. -/
inductive Begun where
  | holding (h : Hold)
  | failed (e : HookError)
  | panicked (message : String)
  /-- There is nothing to wait for. -/
  | done

namespace Hold

/-- Whether the wait is over, asked on behalf of a waker. -/
def poll (waker : Waker) : Hold → Act (Hold × Bool)
  | .future f => do
    let (f, ready) ← f.poll waker
    return (.future f, ready)
  | .never => return (.never, false)

/-- Gives up waiting. -/
def abandon : Hold → Act Unit
  | .future f => f.abandon
  | .never => return ()

end Hold

/-- The body of a scope only sleeps and panics; the other routine commands are for hooks. -/
def Source.allows {C : Type} (c : RoutineCommand C) : Source → Bool
  | .body => match c with
    | .sleep _ | .panic _ => true
    | _ => false
  | _ => true

/-- Turns a failure to begin into the failure of the hook. -/
def beginHold (t : Try Future) : Act Begun := do
  match ← t.run with
  | .ok f => return .holding (.future f)
  | .error e => return .failed ⟨e.message⟩

/-- Begins a routine command. -/
def RoutineCommand.begin (cb : Callbacks) : RoutineCommand Command → Act Begun
  | .sleep length => beginHold (sleepOn length .system)
  | .clockSleep clock length => beginHold do
    sleepOn length (← named (·.clockNames) "clocks" clock).source
  | .pending => return .holding .never
  | .wait lifetime goal => beginHold do
    waitFor (← named (·.lifetimeNames) "lives" lifetime) goal
  | .fail message => return .failed ⟨message⟩
  | .panic message => return .panicked message
  | .must c => do
    match ← cb.perform c with
    | .ok _ => return .done
    | .error e => return .failed ⟨e.message⟩

namespace Routine

/-- Runs commands on behalf of someone until there is something to wait for. -/
def proceed (cb : Callbacks) (waker : Waker) (source : Source) :
    List Command → Act (Progress Routine)
  | [] => return .finished (.ok ())
  | c :: rest => do
    match c with
    | .routine r =>
      if source.allows r then
        match ← r.begin cb with
        | .done => proceed cb waker source rest
        | .failed e => return .finished (.error e)
        | .panicked message => return .panicked message
        | .holding h =>
          let (h, ready) ← h.poll waker
          if ready then proceed cb waker source rest
          else return .waiting ⟨source, some h, rest⟩
      else
        cb.run source [c]
        proceed cb waker source rest
    | c =>
      cb.run source [c]
      proceed cb waker source rest

/-- Goes on with a routine, if what it waits for is there. -/
def poll (cb : Callbacks) (waker : Waker) (r : Routine) : Act (Progress Routine) := do
  match r.hold with
  | none => proceed cb waker r.source r.rest
  | some h =>
    let (h, ready) ← h.poll waker
    if ready then proceed cb waker r.source r.rest
    else return .waiting { r with hold := some h }

/-- Gives a routine up where it stands. -/
def abandon (r : Routine) : Act Unit :=
  match r.hold with
  | some h => h.abandon
  | none => return ()

end Routine

/-- The routine of a hook before it has begun. -/
def Routine.ofHook (h : Hook Body) : Routine := ⟨.hook h.label, none, h.body⟩

end HostBench.Scenario
