/-
# Turns

The processes of a machine take turns. A process goes on until it has to wait or its turn
is over; then the next one goes on. If all of them have to wait, time passes until one of
them is woken, and if none of them waits for the time, nothing happens any more.
-/

import ReleaseBuilder.Machine.Process

namespace ReleaseBuilder.Machine

/-- What a process comes to in its turn. -/
structure Turn where
  /-- The process as it goes on, unless it has ended. -/
  left : Option Process
  /-- Whether it did anything. -/
  moved : Bool
  /-- The children that it split off. -/
  born : List (Nat × Process)
  state : State

namespace State

/-- Whether a process has ended. -/
def hasEnded (s : State) (process : Nat) : Bool :=
  ((s.members.lookup process).map fun m => m.ended.isSome).getD true

/-- What changes for a process that becomes another program: it takes care of no signal, and
the descriptors from ten on are closed. -/
def renew (s : State) : State :=
  let (closed, kept) := s.me.descriptors.partition fun entry => 10 ≤ entry.1
  (s.changeMe fun m => { m with caught := [], descriptors := kept }).releaseAll
    (closed.map Prod.snd)

/-- The next time that a process waits for. -/
def nextWake (s : State) : Option Nat :=
  (s.living.filterMap fun entry => entry.2.wake).min?

end State

/-- Let the process whose turn it is go on for so many steps, or until there is something to hand
on. -/
def advance (load : String → Call → Process) : Nat → Process → Turn → Turn
  | 0, p, t => { t with left := some p }
  | steps + 1, p, t =>
    let s := t.state
    if s.hasEnded s.self then { t with left := none, moved := true }
    else
      match p with
      | .finished ending => { t with left := none, moved := true, state := s.finish s.self ending }
      | .step attempt =>
        match attempt s with
        | none => { t with left := some p }
        | some (next, state) =>
          if state.handed.isSome then { t with left := some next, moved := true, state }
          else advance load steps next { t with moved := true, state }
      | .fork child parent =>
        let (number, state) := s.split
        advance load steps (parent number)
          { t with moved := true, born := t.born ++ [(number, child)], state }
      | .become program call =>
        advance load steps (load program call) { t with moved := true, state := s.renew }

/-- How many steps a turn has. -/
def turnSteps : Nat := 1000

/-- Let processes take turns until enough has happened or there is something to hand on: the
processes that are left, and the state. `still` counts the turns in a row in which nothing was
done. -/
def takeTurns (load : String → Call → Process) (timed : Bool) (enough : State → Bool) :
    Nat → Nat → List (Nat × Process) → State → List (Nat × Process) × State
  | 0, _, queue, s => (queue, s)
  | _ + 1, _, [], s => ([], s)
  | fuel + 1, still, (self, p) :: rest, s =>
    if enough s || s.handed.isSome then ((self, p) :: rest, s)
    else if rest.length < still then
      match s.nextWake with
      | some time =>
        if timed then
          let s := { s with clock := max s.clock time }
          takeTurns load timed enough fuel 0 ((self, p) :: rest) s
        else ((self, p) :: rest, s)
      | none => ((self, p) :: rest, s)
    else
      let t := advance load turnSteps p { left := none, moved := false, born := [],
                                          state := { s with self } }
      let left := (t.left.map fun p => (self, p)).toList
      let queue := if t.state.handed.isSome then left ++ rest ++ t.born else rest ++ t.born ++ left
      takeTurns load timed enough fuel (if t.moved then 0 else still + 1) queue t.state

end ReleaseBuilder.Machine
