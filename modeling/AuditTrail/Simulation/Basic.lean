import AuditTrail.Lock
import AuditTrail.Processor

/-! A simulation runs processors over files in memory. Its clock moves only while a visitor sleeps,
from one due job to the next. -/
namespace AuditTrail

/-- What the handlers received: the transaction ids, latest first, and how many records passed the gate. -/
structure Heard where
  ids : List String := []
  passed : Nat := 0
  deriving DecidableEq, Repr

inductive Audience where
  | violations
  | collecting (refused : List String)
  /-- Records wait before a gate until it is open. -/
  | gate
  deriving DecidableEq, Repr

namespace Audience

def handler : Audience → Handler Heard
  | .violations => Violations.handler
  | .collecting refused => fun heard r =>
    let reply := Collecting.handler refused heard.ids r
    ⟨reply.refusal, { heard with ids := reply.state }, reply.notes⟩
  | .gate => fun heard _ => ⟨none, { heard with passed := heard.passed + 1 }, []⟩

end Audience

/-- The holder of a lock: a visitor, or a loop, by the numbers of its processor and its own. -/
inductive Actor where
  | visitor
  | loop (member index : Nat)
  deriving DecidableEq, Repr

structure Member where
  processor : Processor Heard
  audience : Audience
  /-- The number of the lock that this processor takes. -/
  lock : Nat

structure Simulation where
  scene : Scene Heard
  /-- The wall clock at the beginning of the simulation. -/
  epoch : Moment
  /-- Nanoseconds since then. -/
  elapsed : Nat := 0
  locks : List (Lock Actor) := []
  members : List Member := []
  gateOpen : Bool := false

namespace Simulation

def start (files : Files) (epoch : Moment) : Simulation := { scene := ⟨files, {}, []⟩, epoch }

def now (s : Simulation) : Moment := ⟨s.epoch.nanos + s.elapsed⟩

def files (s : Simulation) : Files := s.scene.files

def withFiles (files : Files) (s : Simulation) : Simulation :=
  { s with scene := { s.scene with files } }

def note (notes : Journal) (s : Simulation) : Simulation :=
  { s with scene := s.scene.note notes }

def journal (s : Simulation) : Journal := s.scene.notes.reverse

def heardIds (s : Simulation) : List String := s.scene.state.ids.reverse

def newLock (s : Simulation) : Nat × Simulation :=
  (s.locks.length, { s with locks := s.locks ++ [{}] })

def lock (s : Simulation) (n : Nat) : Lock Actor := s.locks.getD n {}

def setLock (n : Nat) (lock : Lock Actor) (s : Simulation) : Simulation :=
  { s with locks := s.locks.set n lock }

def setProcessor (m : Nat) (p : Processor Heard) (s : Simulation) : Simulation :=
  { s with members := s.members.modify m fun member => { member with processor := p } }

def enrol (member : Member) (s : Simulation) : Nat × Simulation :=
  (s.members.length, { s with members := s.members ++ [member] })

def admits (s : Simulation) (audience : Audience) : Bool := audience ≠ .gate || s.gateOpen

def advanceTick (member : Member) (tick : Processing Heard) (s : Simulation) :
    Processing Heard × Rotator × Simulation :=
  let p := member.processor
  let course := Processing.Course.advance p.handler p.settings s.now (s.admits member.audience)
    ⟨tick, p.rotator, s.scene⟩
  (course.tick, course.rotator, { s with scene := course.scene })

/-- A tick that is granted the lock, runs, and has released the lock when it stops. -/
def advanceLocked (member : Member) (s : Simulation) :
    Processing Heard × Rotator × Simulation :=
  let (tick, rotator, s) := s.advanceTick member (.rotating .opening)
  (tick, rotator, s.setLock member.lock (s.lock member.lock).release)

/-- The next move in a tick; `none` if it waits or is over. -/
def moveTick? (member : Member) (who : Actor) (s : Simulation) :
    Tick Heard → Option (Tick Heard × Rotator × Simulation)
  | .sweeping =>
    let p := member.processor
    let (outcome, files, notes) := Sweep.run s.files p.settings.path p.settings.retention s.now
    some (.swept outcome, p.rotator, (s.withFiles files).note notes)
  | .swept _ => none
  | .processing .waiting =>
    let lock := (s.lock member.lock).request who
    if lock.holder = some who then
      let (tick, rotator, s) := (s.setLock member.lock lock).advanceLocked member
      some (.processing tick, rotator, s)
    else if lock = s.lock member.lock then none
    else some (.processing .waiting, member.processor.rotator, s.setLock member.lock lock)
  | .processing tick =>
    if tick.canStep (s.admits member.audience) then
      let (tick, rotator, s) := s.advanceTick member tick
      some (.processing tick, rotator, s)
    else none

def moveLoop? (member : Member) (who : Actor) (job : Job) (s : Simulation) (loop : JobLoop Heard) :
    Option (JobLoop Heard × Rotator × Simulation) :=
  let p := member.processor
  match loop.wake job (p.settings.period job) p.life.cancelled s.elapsed with
  | some (loop, notes) => some (loop, p.rotator, s.note notes)
  | none => match loop with
    | .ticking tick due =>
      (s.moveTick? member who tick).map fun (tick, rotator, s) => (.ticking tick due, rotator, s)
    | _ => none

/-- One move of one loop, if it can make one now. -/
def moveAt? (s : Simulation) (m index : Nat) : Option Simulation :=
  match s.members[m]? with
  | none => none
  | some member => match member.processor.loops[index]? with
    | none => none
    | some (job, loop) =>
      (s.moveLoop? member (.loop m index) job loop).map fun (loop, rotator, s) =>
        s.setProcessor m { member.processor with
          rotator, loops := member.processor.loops.set index (job, loop) }

def loops (s : Simulation) : List (Nat × Nat) :=
  (List.range s.members.length).flatMap fun m =>
    (List.range ((s.members[m]?).elim 0 (·.processor.loops.length))).map fun index => (m, index)

def move? (s : Simulation) : Option Simulation := s.loops.findSome? fun (m, index) => s.moveAt? m index

def moves : Nat → Simulation → Simulation
  | 0, s => s
  | fuel + 1, s => match s.move? with
    | some s => moves fuel s
    | none => s

/-- A bound on the moves of one loop at one moment: it wakes, ends a tick and makes at most one more. -/
def movesPerLoop : Nat := 16

def settle (s : Simulation) : Simulation := moves (movesPerLoop * s.loops.length) s

def millisecond : Nat := 1000000

/-- Timers fire at whole milliseconds. -/
def wholeMillis (t : Nat) : Nat := (t + millisecond - 1) / millisecond * millisecond

def nextTimer? (s : Simulation) : Option Nat :=
  (s.members.flatMap fun member => member.processor.loops.filterMap fun (_, loop) =>
    (loop.due?.map wholeMillis).filter (s.elapsed < ·)).min?

/-- Lets time pass until a condition holds, but not beyond a given moment. -/
def passUntil (reached : Simulation → Bool) (limit : Nat) (s : Simulation) : Simulation :=
  go ((limit - s.elapsed) / millisecond + 2) s
where
  go : Nat → Simulation → Simulation
    | 0, s => s
    | fuel + 1, s =>
      let s := s.settle
      if reached s || limit ≤ s.elapsed then s
      else go fuel { s with elapsed := (s.nextTimer?.map (min limit)).getD limit }

def sleep (nanos : Nat) (s : Simulation) : Simulation :=
  s.passUntil (fun _ => false) (s.elapsed + nanos)

end Simulation
end AuditTrail
