import AuditTrail.Lock
import AuditTrail.Proofs.Rotation
import AuditTrail.Sweep
import Mathlib.Logic.Function.Basic

/-! A live log as a transition system: visitors write to it or rotate it under a lock, sweeps
remove old backups, and others make and delete files beside it. A run is any interleaving of these
steps. The history fields are read by no step. -/
namespace AuditTrail

/-- Withdraws a request for the lock, or releases the lock if it was already granted. -/
def Lock.abandon {α : Type} [DecidableEq α] (who : α) (l : Lock α) : Lock α :=
  if l.holder = some who then l.release else { l with queue := l.queue.erase who }

structure Layout where
  live : Path
  /-- The rotator that a visitor uses. Clones of a rotator share one. -/
  rotator : Nat → Nat
  lock : Nat → Nat

def Layout.lockOf (y : Layout) (v : Nat) : Nat := y.lock (y.rotator v)

/-- A rotation under way. `since` is the number of files when it began, `opened` the file number of the live
log, `clock` the second it read, `first` the first suffix it tries, `made` the file number of its backup, and
`met` lists the taken suffixes with their entries. `awaited` says whether the caller still waits. -/
structure Turn where
  stage : Rotation.Stage := .opening
  since : Nat
  opened : Option Nat := none
  clock : Nat := 0
  first : Nat := 0
  made : Option Nat := none
  met : List (Nat × Node) := []
  awaited : Bool := true

inductive Visit where
  | away
  | waiting
  | writing
  | rotating (turn : Turn)

/-- A backup that was made. The clock is the second that its rotation read. -/
structure Creation where
  rotator : Nat
  clock : Nat
  suffix : Nat
  number : Nat

/-- The history of a run: the bytes appended to the live log, the backups made, the content of each file when
it was last synced, and the backups of the rotations that truncated the live log. -/
structure History where
  written : Bytes := []
  created : List Creation := []
  synced : Nat → Option Bytes := fun _ => none
  emptied : List Path := []

structure Site where
  files : Files
  locks : Nat → Lock Nat := fun _ => {}
  /-- The last suffix of each rotator. -/
  last : Nat → Nat := fun _ => 0
  visits : Nat → Visit := fun _ => .away
  sweeps : Nat → Sweep := fun _ => { pending := [], scanned := 0 }
  past : History := {}

def Files.occupant (f : Files) (p : Path) : Option Node := (f.find false p).toOption.bind (·.node?)

theorem Files.occupant_eq_some {f : Files} {p : Path} {node : Node} :
    f.occupant p = some node ↔ ∃ place, f.find false p = .ok ⟨place, some node⟩ := by
  unfold occupant
  cases f.find false p with
  | error cause => simp [Except.toOption]
  | ok found =>
    obtain ⟨place, node?⟩ := found
    simp [Except.toOption]

def Turn.after (t : Turn) (r : Rotator) (f : Files) (now : Moment) (next : Rotation.Stage) : Turn :=
  match t.stage, next with
  | .opening, _ =>
    { t with stage := next, opened := (f.number r.live).toOption, clock := now.seconds,
             first := r.first now }
  | .naming .., .copying _ _ target => { t with stage := next, made := some target }
  | .naming _ suffix _, _ =>
    { t with stage := next,
             met := t.met ++ ((f.occupant (Backup.path r.live suffix)).map (suffix, ·)).toList }
  | _, _ => { t with stage := next }

def History.after (c : History) (rotator : Nat) (f : Files) (t : Turn) (next : Rotation.Stage) :
    History :=
  match t.stage, next with
  | .naming _ suffix _, .copying _ _ target =>
    { c with created := c.created ++ [⟨rotator, t.clock, suffix, target⟩] }
  | .syncing _ _ target _, .truncating .. =>
    { c with synced := Function.update c.synced target (f.contentOf target).toOption }
  | .truncating _ backup _, .done (.ok _) => { c with emptied := c.emptied ++ [backup] }
  | _, _ => c

@[simp] theorem Turn.stage_after (t : Turn) (r : Rotator) (f : Files) (now : Moment)
    (next : Rotation.Stage) : (t.after r f now next).stage = next := by
  unfold after
  split <;> rfl

@[simp] theorem History.written_after (c : History) (rotator : Nat) (f : Files) (t : Turn)
    (next : Rotation.Stage) : (c.after rotator f t next).written = c.written := by
  unfold after
  split <;> rfl

namespace Site

def visit (s : Site) (v : Nat) (visit : Visit) : Site :=
  { s with visits := Function.update s.visits v visit }

def relock (s : Site) (lock : Nat) (change : Lock Nat → Lock Nat) : Site :=
  { s with locks := Function.update s.locks lock (change (s.locks lock)) }

def holder (y : Layout) (s : Site) (v : Nat) : Option Nat := (s.locks (y.lockOf v)).holder

def rotator (y : Layout) (s : Site) (v : Nat) : Rotator := ⟨y.live, s.last (y.rotator v)⟩

def rotation (y : Layout) (s : Site) (v : Nat) (t : Turn) : Rotation :=
  { rotator := s.rotator y v, files := s.files, stage := t.stage }

def advance (y : Layout) (s : Site) (v : Nat) (t : Turn) (now : Moment) (files : Files) (last : Nat)
    (next : Rotation.Stage) : Site :=
  { s with files
           last := Function.update s.last (y.rotator v) last
           visits := Function.update s.visits v
             (.rotating (t.after (s.rotator y v) s.files now next))
           past := s.past.after (y.rotator v) s.files t next }

def request (y : Layout) (s : Site) (v : Nat) (t : Turn) (now : Moment) (fault : Option Files.Fault) :
    Site :=
  let w := (s.rotation y v t).step now fault
  s.advance y v t now w.files w.rotator.last w.stage

end Site

inductive Action where
  | ask (v : Nat)
  | forgo (v : Nat)
  | write (v : Nat)
  | append (v : Nat) (bytes : Bytes)
  | leave (v : Nat)
  | rotate (v : Nat)
  | forget (v : Nat)
  | request (v : Nat) (now : Moment) (fault : Option Files.Fault)
  | piece (v : Nat) (moved : Nat)
  | finish (v : Nat)
  | sweep (k : Nat) (retention : Duration) (now : Moment)
  | expel (k : Nat) (fault : Option Files.Fault)
  | appear (place : Place) (content : Bytes)
  | vanish (place : Place)

inductive Step (y : Layout) (s : Site) : Action → Site → Prop where
  | ask {v : Nat} (here : s.visits v = .away) :
      Step y s (.ask v) ((s.relock (y.lockOf v) (·.request v)).visit v .waiting)
  | forgo {v : Nat} (here : s.visits v = .waiting) :
      Step y s (.forgo v) ((s.relock (y.lockOf v) (·.abandon v)).visit v .away)
  | write {v : Nat} (here : s.visits v = .waiting) (granted : s.holder y v = some v) :
      Step y s (.write v) (s.visit v .writing)
  | append {v : Nat} {bytes : Bytes} {files : Files} (here : s.visits v = .writing)
      (appended : s.files.append y.live bytes = .ok files) :
      Step y s (.append v bytes)
        { s with files, past := { s.past with written := s.past.written ++ bytes } }
  | leave {v : Nat} (here : s.visits v = .writing) :
      Step y s (.leave v) ((s.relock (y.lockOf v) Lock.release).visit v .away)
  | rotate {v : Nat} (here : s.visits v = .waiting) (granted : s.holder y v = some v) :
      Step y s (.rotate v) (s.visit v (.rotating { since := s.files.inodes.length }))
  /-- The caller drops a rotation that has begun. The rotation goes on and keeps the lock. -/
  | forget {v : Nat} {t : Turn} (here : s.visits v = .rotating t) :
      Step y s (.forget v) (s.visit v (.rotating { t with awaited := false }))
  | request {v : Nat} {t : Turn} {now : Moment} {fault : Option Files.Fault}
      (here : s.visits v = .rotating t) (asks : (t.stage.asks y.live).isSome) :
      Step y s (.request v now fault) (s.request y v t now fault)
  | piece {v moved source target : Nat} {backup : Path} {content : Bytes} {t : Turn}
      (here : s.visits v = .rotating t) (copying : t.stage = .copying source backup target)
      (readable : s.files.contentOf source = .ok content) :
      Step y s (.piece v moved)
        { s with files := s.files.revise target (Files.overwrite (content.take moved)) }
  | finish {v : Nat} {t : Turn} {outcome : Except Failure Rotation.Rotated}
      (here : s.visits v = .rotating t) (ended : t.stage = .done outcome) :
      Step y s (.finish v) ((s.relock (y.lockOf v) Lock.release).visit v .away)
  | sweep {k : Nat} {retention : Duration} {now : Moment} {sweep : Sweep}
      (listed : Sweep.start s.files y.live retention now = .ok sweep) :
      Step y s (.sweep k retention now) { s with sweeps := Function.update s.sweeps k sweep }
  | expel {k : Nat} {fault : Option Files.Fault} :
      Step y s (.expel k fault)
        { s with files := ((s.sweeps k).step fault s.files).2.1
                 sweeps := Function.update s.sweeps k ((s.sweeps k).step fault s.files).1 }
  | appear {place : Place} {content : Bytes} (free : s.files.node? place = none) :
      Step y s (.appear place content) { s with files := s.files.addFile place content }
  | vanish {place : Place} {n : Nat} (file : s.files.node? place = some (.file n)) :
      Step y s (.vanish place) { s with files := s.files.erase place }

/-- All visitors share one rotator and its lock. -/
def Layout.lone (live : Path) : Layout := ⟨live, fun _ => 0, fun _ => 0⟩

/-- `allowed` restricts the actions of a run. -/
inductive Run (y : Layout) (allowed : Site → Action → Prop) (start : Site) : Site → Prop where
  | here : Run y allowed start start
  | next {s s' : Site} {a : Action} (run : Run y allowed start s) (fair : allowed s a)
      (step : Step y s a s') : Run y allowed start s'

namespace Site

def act (y : Layout) (s : Site) : Action → Option Site
  | .ask v => match s.visits v with
    | .away => some ((s.relock (y.lockOf v) (·.request v)).visit v .waiting)
    | _ => none
  | .forgo v => match s.visits v with
    | .waiting => some ((s.relock (y.lockOf v) (·.abandon v)).visit v .away)
    | _ => none
  | .write v => match s.visits v with
    | .waiting => if s.holder y v = some v then some (s.visit v .writing) else none
    | _ => none
  | .append v bytes => match s.visits v, s.files.append y.live bytes with
    | .writing, .ok files =>
      some { s with files, past := { s.past with written := s.past.written ++ bytes } }
    | _, _ => none
  | .leave v => match s.visits v with
    | .writing => some ((s.relock (y.lockOf v) Lock.release).visit v .away)
    | _ => none
  | .rotate v => match s.visits v with
    | .waiting =>
      if s.holder y v = some v then
        some (s.visit v (.rotating { since := s.files.inodes.length }))
      else none
    | _ => none
  | .forget v => match s.visits v with
    | .rotating t => some (s.visit v (.rotating { t with awaited := false }))
    | _ => none
  | .request v now fault => match s.visits v with
    | .rotating t => if (t.stage.asks y.live).isSome then some (s.request y v t now fault) else none
    | _ => none
  | .piece v moved => match s.visits v with
    | .rotating t => match t.stage with
      | .copying source _ target => match s.files.contentOf source with
        | .ok content =>
          some { s with files := s.files.revise target (Files.overwrite (content.take moved)) }
        | .error _ => none
      | _ => none
    | _ => none
  | .finish v => match s.visits v with
    | .rotating t => match t.stage with
      | .done _ => some ((s.relock (y.lockOf v) Lock.release).visit v .away)
      | _ => none
    | _ => none
  | .sweep k retention now => match Sweep.start s.files y.live retention now with
    | .ok sweep => some { s with sweeps := Function.update s.sweeps k sweep }
    | .error _ => none
  | .expel k fault =>
    some { s with files := ((s.sweeps k).step fault s.files).2.1
                  sweeps := Function.update s.sweeps k ((s.sweeps k).step fault s.files).1 }
  | .appear place content =>
    if s.files.node? place = none then some { s with files := s.files.addFile place content }
    else none
  | .vanish place => match s.files.node? place with
    | some (.file _) => some { s with files := s.files.erase place }
    | _ => none

def play (y : Layout) (s : Site) : List Action → Option Site
  | [] => some s
  | a :: rest => (s.act y a).bind fun s' => s'.play y rest

theorem step_of_act {y : Layout} {s s' : Site} {a : Action} (acted : s.act y a = some s') :
    Step y s a s' := by
  cases a with
  | ask v | forgo v | leave v | forget v =>
    simp only [act] at acted
    split at acted
    · next here =>
      obtain rfl := Option.some.inj acted
      constructor
      exact here
    · cases acted
  | write v | rotate v =>
    simp only [act] at acted
    split at acted
    · next here =>
      split at acted
      · next granted =>
        obtain rfl := Option.some.inj acted
        constructor
        · exact here
        · exact granted
      · cases acted
    · cases acted
  | append v bytes =>
    simp only [act] at acted
    split at acted
    · next here appended =>
      obtain rfl := Option.some.inj acted
      exact .append here appended
    · cases acted
  | request v now fault =>
    simp only [act] at acted
    split at acted
    · next here =>
      split at acted
      · next asks =>
        obtain rfl := Option.some.inj acted
        exact .request here asks
      · cases acted
    · cases acted
  | piece v moved =>
    simp only [act] at acted
    split at acted
    · next here =>
      split at acted
      · next copying =>
        split at acted
        · next readable =>
          obtain rfl := Option.some.inj acted
          exact .piece here copying readable
        · cases acted
      · cases acted
    · cases acted
  | finish v =>
    simp only [act] at acted
    split at acted
    · next here =>
      split at acted
      · next ended =>
        obtain rfl := Option.some.inj acted
        exact .finish here ended
      · cases acted
    · cases acted
  | sweep k retention now =>
    simp only [act] at acted
    split at acted
    · next listed =>
      obtain rfl := Option.some.inj acted
      exact .sweep listed
    · cases acted
  | expel k fault =>
    obtain rfl := Option.some.inj acted
    exact .expel
  | appear place content =>
    simp only [act] at acted
    split at acted
    · next free =>
      obtain rfl := Option.some.inj acted
      exact .appear free
    · cases acted
  | vanish place =>
    simp only [act] at acted
    split at acted
    · next file =>
      obtain rfl := Option.some.inj acted
      exact .vanish file
    · cases acted

/-- `act` computes the steps. -/
theorem act_eq_some {y : Layout} {s s' : Site} {a : Action} :
    s.act y a = some s' ↔ Step y s a s' := by
  constructor
  · exact step_of_act
  · intro step
    cases step <;> simp [act, *]

theorem run_of_play {y : Layout} {allowed : Site → Action → Prop} {start s s' : Site}
    {actions : List Action} (run : Run y allowed start s)
    (fair : ∀ a ∈ actions, ∀ s, allowed s a) (played : s.play y actions = some s') :
    Run y allowed start s' := by
  induction actions generalizing s with
  | nil =>
    obtain rfl := Option.some.inj played
    exact run
  | cons a rest ih =>
    obtain ⟨middle, acted, onward⟩ := Option.bind_eq_some_iff.1 played
    exact ih (run.next (fair a List.mem_cons_self s) (act_eq_some.1 acted))
      (fun b member => fair b (List.mem_cons_of_mem _ member)) onward

def playIf (y : Layout) (check : Site → Action → Bool) (s : Site) : List Action → Option Site
  | [] => some s
  | a :: rest =>
    if check s a then (s.act y a).bind fun s' => s'.playIf y check rest else none

theorem run_of_playIf {y : Layout} {allowed : Site → Action → Prop} {check : Site → Action → Bool}
    {start s s' : Site} {actions : List Action} (run : Run y allowed start s)
    (checks : ∀ s a, check s a = true → allowed s a)
    (played : s.playIf y check actions = some s') : Run y allowed start s' := by
  induction actions generalizing s with
  | nil =>
    obtain rfl := Option.some.inj played
    exact run
  | cons a rest ih =>
    simp only [playIf, Option.ite_none_right_eq_some] at played
    obtain ⟨passed, played⟩ := played
    obtain ⟨middle, acted, onward⟩ := Option.bind_eq_some_iff.1 played
    exact ih (run.next (checks s a passed) (act_eq_some.1 acted)) onward

end Site

def Visit.inside : Visit → Prop
  | .writing | .rotating _ => True
  | .away | .waiting => False

/-- Only the holder of a lock is inside. -/
def Site.Exclusive (y : Layout) (s : Site) : Prop :=
  ∀ v, (s.visits v).inside → s.holder y v = some v

theorem Lock.holder_request {l : Lock Nat} {u : Nat} (held : l.holder = some u) (v : Nat) :
    (l.request v).holder = some u := by
  unfold request isFree
  rw [held]
  simp only [Option.isNone_some, Bool.false_eq_true, if_false]
  split
  · exact held
  · rfl

theorem Lock.holder_abandon {l : Lock Nat} {u v : Nat} (held : l.holder = some u) (other : u ≠ v) :
    (l.abandon v).holder = some u := by
  rw [abandon, held, if_neg]
  simpa using other

variable {y : Layout} {s s' : Site} {a : Action} {u v w : Nat}

namespace Site

@[simp] theorem visits_visit (visit : Visit) :
    (s.visit v visit).visits u = if u = v then visit else s.visits u := by
  simp only [Site.visit, Function.update_apply]

@[simp] theorem visits_relock (lock : Nat) (change : Lock Nat → Lock Nat) :
    (s.relock lock change).visits = s.visits := rfl

theorem holder_relock {lock : Nat} {change : Lock Nat → Lock Nat}
    (keeps : y.lockOf u = lock → (change (s.locks lock)).holder = some u)
    (held : s.holder y u = some u) : (s.relock lock change).holder y u = some u := by
  simp only [holder, relock] at held ⊢
  by_cases same : y.lockOf u = lock
  · subst same
    rw [Function.update_self]
    exact keeps rfl
  · rw [Function.update_of_ne same]
    exact held

theorem Exclusive.alone (exclusive : s.Exclusive y) (first : (s.visits v).inside)
    (second : (s.visits w).inside) (shared : y.lockOf v = y.lockOf w) : v = w := by
  have one := exclusive v first
  have other := exclusive w second
  rw [holder, shared] at one
  exact Option.some.inj (one.symm.trans other)

theorem Exclusive.unturned (exclusive : s.Exclusive y) (inside : (s.visits v).inside)
    (shared : y.lockOf w = y.lockOf v) (other : w ≠ v) (t : Turn) : s.visits w ≠ .rotating t := by
  intro turning
  have within : (s.visits w).inside := by
    rw [turning]
    trivial
  exact other (exclusive.alone within inside shared)

theorem request_move {t : Turn} (v : Nat) (now : Moment) (fault : Option Files.Fault)
    (asks : (t.stage.asks y.live).isSome) : ∃ files last next,
      Rotation.Move (s.rotator y v) now fault s.files t.stage files last next ∧
      s.request y v t now fault = s.advance y v t now files last next := by
  have move := Rotation.step_move (w := s.rotation y v t) now fault asks
  exact ⟨_, _, _, move, rfl⟩

end Site

theorem Step.exclusive (step : Step y s a s') (exclusive : s.Exclusive y) : s'.Exclusive y := by
  intro u inside
  have leaves : ∀ v, (s.visits v).inside → u ≠ v → (s.visits u).inside →
      ((s.relock (y.lockOf v) Lock.release).holder y u = some u) := by
    intro v within other insideU
    refine Site.holder_relock (fun shared => ?_) (exclusive u insideU)
    exact absurd (exclusive.alone insideU within shared) other
  cases step with
  | @ask v here =>
    have other : u ≠ v := by rintro rfl; simp [Visit.inside] at inside
    have insideU : (s.visits u).inside := by simpa [other] using inside
    have held := exclusive u insideU
    refine Site.holder_relock (fun shared => ?_) held
    rw [Site.holder, shared] at held
    exact Lock.holder_request held v
  | @forgo v here =>
    have other : u ≠ v := by rintro rfl; simp [Visit.inside] at inside
    have insideU : (s.visits u).inside := by simpa [other] using inside
    have held := exclusive u insideU
    refine Site.holder_relock (fun shared => ?_) held
    rw [Site.holder, shared] at held
    exact Lock.holder_abandon held other
  | @write v here granted | @rotate v here granted =>
    by_cases same : u = v
    · subst same
      exact granted
    · exact exclusive u (by simpa [same] using inside)
  | @leave v here =>
    have other : u ≠ v := by rintro rfl; simp [Visit.inside] at inside
    exact leaves v (by rw [here]; trivial) other (by simpa [other] using inside)
  | @finish v t outcome here ended =>
    have other : u ≠ v := by rintro rfl; simp [Visit.inside] at inside
    exact leaves v (by rw [here]; trivial) other (by simpa [other] using inside)
  | @forget v t here =>
    by_cases same : u = v
    · subst same
      exact exclusive u (by rw [here]; trivial)
    · exact exclusive u (by simpa [same] using inside)
  | @request v t now fault here asks =>
    by_cases same : u = v
    · subst same
      exact exclusive u (by rw [here]; trivial)
    · apply exclusive u
      simpa [Site.request, Site.advance, Function.update_apply, same] using inside
  | append | piece | sweep | expel | appear | vanish => exact exclusive u inside

theorem Site.exclusive_origin (f : Files) : ({ files := f } : Site).Exclusive y := by
  intro v inside
  cases inside

end AuditTrail
