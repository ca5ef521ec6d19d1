import LoginThrottle.Guard

/-!
# Checks that overlap

Several identities can be checked at once. Before the throttle has its meters, each
check would fetch limits to make them, so the checks take turns: one fetches and the
others wait until it either succeeds, and all go on, or fails, and the one that has
waited longest fetches next.

## Main Definitions

* `Caller`: how far one check has come
* `Room`: the guard, whose turn it is to fetch and who waits for it
* `Caller.poll`: one caller goes on as far as it can
* `Room.pollAll`: every caller in turn goes on as far as it can
* `Guard.checkAll`: all checks from start to end

## Design Notes

A fetch is not answered at once. The caller that makes it steps aside, and the others
go on before it learns the answer. This is the only point at which a check can be
interrupted.
-/

namespace LoginThrottle

/-- How far the check of one identity has come. -/
inductive Caller
  /-- The check has not begun. -/
  | arriving (identity : Identity)
  /-- The check waits for its turn to fetch limits. -/
  | waiting (identity : Identity)
  /-- The check has asked for limits and will find them answered like this. -/
  | fetching (identity : Identity) (answer : Except Fault (List Limit))
  /-- The check is over. -/
  | finished (result : Except Fault Bool)

/-- The result of a check that is over. -/
def Caller.result? : Caller → Option (Except Fault Bool)
  | finished result => some result
  | _ => none

/-- What the callers share: a guard, the number of the caller whose turn it is to
fetch, and the numbers of those who wait for their turn, the first one first. -/
structure Room where
  guard : Guard
  holder : Option Nat
  queue : List Nat

namespace Room

/-- A room in which nobody fetches or waits. -/
def new (guard : Guard) : Room :=
  ⟨guard, none, []⟩

/-- Ends a turn: the one who has waited longest is next. -/
def release (room : Room) : Room :=
  match room.queue with
  | [] => { room with holder := none }
  | next :: others => { room with holder := some next, queue := others }

end Room

namespace Caller

/-- Checks an identity against meters that exist, which ends the check. -/
def passMeters (identity : Identity) (now : Instant) (room : Room) : Caller × Room :=
  let (result, guard) := room.guard.check .throttle identity now
  (.finished result, { room with guard := guard })

/-- Asks for limits, with the turn held by the caller of the given number. -/
def beginFetch (number : Nat) (identity : Identity) (room : Room) : Caller × Room :=
  let (answer, store) := room.guard.throttle.store.fetch identity.dimensions
  let throttle := { room.guard.throttle with store := store }
  (.fetching identity answer,
    { room with guard := { room.guard with throttle := throttle }, holder := some number })

/-- Learns the answer to a fetch and ends the turn. -/
def endFetch (identity : Identity) (answer : Except Fault (List Limit)) (now : Instant)
    (room : Room) : Caller × Room :=
  let (made, throttle) := room.guard.throttle.adopt answer
  let room := { room with guard := { room.guard with throttle := throttle } }.release
  match made with
  | .error fault => (.finished (.error fault), room)
  | .ok _ => passMeters identity now room

/-- Comes to the meters: passes them if they exist, else fetches limits or waits. -/
def approach (number : Nat) (identity : Identity) (now : Instant) (room : Room) :
    Caller × Room :=
  if room.guard.throttle.isInitialized then
    passMeters identity now room
  else
    match room.holder with
    | none => beginFetch number identity room
    | some _ => (.waiting identity, { room with queue := room.queue ++ [number] })

/-- Begins a check at a gate. -/
def arrive (number : Nat) (gate : Gate) (identity : Identity) (now : Instant) (room : Room) :
    Caller × Room :=
  match gate with
  | .list _ =>
    let (result, guard) := room.guard.check gate identity now
    (.finished result, { room with guard := guard })
  | .throttle =>
    if identity.isEmpty then
      (.finished (.error .incorrectIdentity), room)
    else
      approach number identity now room
  | .login =>
    let (screened, guard) := room.guard.screen identity
    let room := { room with guard := guard }
    match screened with
    | .error fault => (.finished (.error fault), room)
    | .ok .denied => (.finished (.ok false), room)
    | .ok .passed => (.finished (.ok true), room)
    | .ok .undecided => approach number identity now room

/-- Goes on with a check as far as possible. -/
def poll (number : Nat) (gate : Gate) (now : Instant) (room : Room) : Caller → Caller × Room
  | .arriving identity => arrive number gate identity now room
  | .waiting identity =>
    if room.guard.throttle.isInitialized then
      passMeters identity now room
    else if room.holder = some number then
      beginFetch number identity room
    else
      (.waiting identity, room)
  | .fetching identity answer => endFetch identity answer now room
  | .finished result => (.finished result, room)

end Caller

namespace Room

/-- Lets every caller in turn go on as far as it can. Callers are numbered from
`number` on. -/
def pollAll (gate : Gate) (now : Instant) (number : Nat) :
    List Caller → Room → List Caller × Room
  | [], room => ([], room)
  | caller :: others, room =>
    let (caller, room) := caller.poll number gate now room
    let (others, room) := pollAll gate now (number + 1) others room
    (caller :: others, room)

/-- Polls all callers so many times. -/
def pollRounds (gate : Gate) (now : Instant) :
    Nat → List Caller → Room → List Caller × Room
  | 0, callers, room => (callers, room)
  | rounds + 1, callers, room =>
    let (callers, room) := pollAll gate now 0 callers room
    pollRounds gate now rounds callers room

end Room

/-- Checks identities that arrive at once. In every round but the first some fetch is
answered, and a caller fetches at most once, so one round more than there are callers
sees all of them through. -/
def Guard.checkAll (guard : Guard) (gate : Gate) (identities : List Identity) (now : Instant) :
    List (Except Fault Bool) × Guard :=
  let (callers, room) :=
    Room.pollRounds gate now (identities.length + 1) (identities.map .arriving) (.new guard)
  (callers.filterMap Caller.result?, room.guard)

end LoginThrottle
