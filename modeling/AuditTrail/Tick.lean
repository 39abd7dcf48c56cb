import AuditTrail.Dispatch
import AuditTrail.Processor.Settings
import AuditTrail.Rotation
import AuditTrail.Sweep

/-! One tick of a job, in steps. A processing tick looks at the size of the live log without the
lock, rotates under the lock, and reads the new backup after releasing it. An expiration tick is
one sweep. -/
namespace AuditTrail

/-- The state that ticks share; the notes are kept latest first. -/
structure Scene (σ : Type) where
  files : Files
  /-- The state of the handler. -/
  state : σ
  notes : Journal := []

def Scene.note (c : Scene σ) (notes : Journal) : Scene σ :=
  { c with notes := notes.reverse ++ c.notes }

inductive Processing (σ : Type) where
  | sizing
  /-- Has seen data and waits for the lock. -/
  | waiting
  /-- Holds the lock. -/
  | rotating (stage : Rotation.Stage)
  | opening (backup : Path)
  /-- The lines of a backup that remain to be handled, and the error that ends the reading. -/
  | reading (backup : Path) (lines : List Line) (ending : Option IoError) (d : Dispatch σ)
  | done (outcome : Except Failure (Option Summary))

namespace Files

def source (f : Files) (p : Path) : Except IoError Source :=
  match f.locate p with
  | .error cause => .error cause
  | .ok .directory => .ok [.failed (.ofKind .isADirectory)]
  | .ok (.link _) => .error (.ofKind .filesystemLoop)
  | .ok (.file n) =>
    match f.contentOf n with
    | .error cause => .ok [.failed cause]
    | .ok content => .ok [.bytes content]

end Files

namespace Processing

variable {σ : Type}

def begin (path : Path) (limit : Nat) (state : σ) (source : Source) : Processing σ :=
  let lines := Lines.read limit source
  .reading path lines.lines lines.ending { state := state }

def unopened (path : Path) (cause : IoError) : Failure :=
  .io s!"failed to open backup {path.display}" cause

/-- A tick in progress, with the rotator of its processor. -/
structure Course (σ : Type) where
  tick : Processing σ
  rotator : Rotator
  scene : Scene σ

def absent (live : Path) : Event :=
  ⟨.debug, .processor, "audit log absent or empty, nothing to rotate",
    [("path", .text live.display)]⟩

/-- The step after the size of the live log is known. -/
def sized (live : Path) (answer : Files.Answer) : Processing σ × Journal :=
  match Rotation.pending live answer with
  | .error failure => (.done (.error failure), [])
  | .ok false => (.done (.ok none), [.event (absent live)])
  | .ok true => (.waiting, [])

def rotated (live : Path) (outcome : Except Failure Rotation.Rotated) : Processing σ × Journal :=
  (match outcome with
    | .ok ⟨backup, _⟩ => .opening backup
    | .error failure => .done (.error failure),
   Rotation.report live outcome)

def opened (backup : Path) (limit : Nat) (state : σ) : Except IoError Source → Processing σ × Journal
  | .error cause => (.done (.error (unopened backup cause)), [.backupTimed])
  | .ok source => (begin backup limit state source, [])

/-- Makes one step; `waiting` stays as it is until the lock is granted. -/
def Course.step (handler : Handler σ) (s : Settings) (now : Moment) (fault : Option Files.Fault)
    (a : Course σ) : Course σ :=
  match a.tick with
  | .sizing =>
    let (answer, files) := a.scene.files.serve fault (.size s.path)
    let (tick, notes) := sized s.path answer
    { a with tick, scene := { a.scene with files }.note notes }
  | .waiting => a
  | .rotating stage =>
    match stage with
    | .done outcome =>
      let (tick, notes) := rotated s.path outcome
      { a with tick, scene := a.scene.note notes }
    | stage =>
      let w : Rotation := { rotator := a.rotator, files := a.scene.files, stage,
                            notes := a.scene.notes }
      let w := w.step now fault
      { tick := .rotating w.stage, rotator := w.rotator,
        scene := { a.scene with files := w.files, notes := w.notes } }
  | .opening backup =>
    let source := match fault with
      | some fault => .error fault.cause
      | none => a.scene.files.source backup
    let (tick, notes) := opened backup s.maxLineBytes.toNat a.scene.state source
    { a with tick, scene := a.scene.note notes }
  | .reading backup (line :: lines) ending d =>
    let d := { d with state := a.scene.state, notes := a.scene.notes }.take handler backup
      s.maxLineBytes.toNat line
    { a with tick := .reading backup lines ending d,
             scene := { a.scene with state := d.state, notes := d.notes } }
  | .reading backup [] ending d =>
    { a with tick := .done ((d.result backup ending).map some),
             scene := a.scene.note [.backupTimed] }
  | .done _ => a

def grant : Processing σ → Processing σ
  | .waiting => .rotating .opening
  | tick => tick

/-- A measure that every step decreases. -/
def rank : Processing σ → Nat × Nat
  | .sizing => (5, 0)
  | .waiting => (4, 0)
  | .rotating stage => (3, stage.rank)
  | .opening _ => (2, 0)
  | .reading _ lines _ _ => (1, lines.length)
  | .done _ => (0, 0)

/-- Whether a tick can step. Records are handled only while `admits` holds. -/
def canStep (admits : Bool) : Processing σ → Bool
  | .waiting | .done _ => false
  | .reading _ (line :: _) _ _ =>
    admits || match Dispatch.Reading.ofLine line with
      | .record _ => false
      | _ => true
  | _ => true

theorem rank_sized (live : Path) (answer : Files.Answer) :
    (sized (σ := σ) live answer).1.rank.1 < 5 := by
  unfold sized
  split <;> simp [rank]

theorem rank_rotated (live : Path) (outcome : Except Failure Rotation.Rotated) :
    (rotated (σ := σ) live outcome).1.rank.1 < 3 := by
  cases outcome <;> simp [rotated, rank]

theorem rank_opened (backup : Path) (limit : Nat) (state : σ) (source : Except IoError Source) :
    (opened backup limit state source).1.rank.1 < 2 := by
  cases source <;> simp [opened, begin, rank]

theorem lex_of_fst {a b : Nat × Nat} (h : a.1 < b.1) : Prod.Lex (· < ·) (· < ·) a b :=
  Prod.lex_def.2 (.inl h)

theorem rank_step {handler : Handler σ} {s : Settings} {now : Moment}
    {fault : Option Files.Fault} {a : Course σ} {admits : Bool}
    (h : a.tick.canStep admits = true) :
    Prod.Lex (· < ·) (· < ·) (a.step handler s now fault).tick.rank a.tick.rank := by
  obtain ⟨tick, rotator, scene⟩ := a
  cases tick with
  | waiting => simp [canStep] at h
  | done outcome => simp [canStep] at h
  | sizing => exact lex_of_fst (rank_sized _ _)
  | rotating stage =>
    by_cases asks : (stage.asks rotator.live).isSome
    · have lower : (({ rotator, files := scene.files, stage, notes := scene.notes } : Rotation).step
          now fault).stage.rank < stage.rank := Rotation.rank_step asks
      cases stage with
      | done outcome => simp [Rotation.Stage.asks] at asks
      | _ => exact Prod.Lex.right _ lower
    · cases stage with
      | done outcome => exact lex_of_fst (rank_rotated s.path outcome)
      | _ => simp [Rotation.Stage.asks] at asks
  | opening backup => exact lex_of_fst (rank_opened _ _ _ _)
  | reading backup lines ending d =>
    cases lines with
    | nil => exact lex_of_fst (by simp [Course.step, rank])
    | cons line lines => exact Prod.Lex.right _ (by simp)

/-- Runs until the tick is over, waits for the lock or stands before a record that is not admitted. -/
def Course.advance (handler : Handler σ) (s : Settings) (now : Moment) (admits : Bool)
    (a : Course σ) : Course σ :=
  if _h : a.tick.canStep admits = true then
    advance handler s now admits (a.step handler s now none)
  else a
termination_by a.tick.rank
decreasing_by exact rank_step _h

end Processing

inductive Tick (σ : Type) where
  | processing (p : Processing σ)
  | sweeping
  | swept (outcome : Except Failure Sweep.Summary)

namespace Tick

def start : Job → Tick σ
  | .processing => .processing .sizing
  | .expiration => .sweeping

/-- The log of a finished tick; no failure ends the job. -/
def report : Except Failure (Option Summary) → Journal
  | .ok none => []
  | .ok (some ⟨processed, blank⟩) =>
    [.event ⟨.info, .processor, "audit log backup processed",
      [("processed", .number processed), ("skipped_blank", .number blank)]⟩]
  | .error failure => match failure with
    | .records .. => [.event ⟨.warn, .processor, "audit log backup processed with errors",
        [("error", .text failure.message)]⟩]
    | _ => [.event ⟨.error, .processor, "audit log processing tick failed",
        [("error", .text failure.message)]⟩]

def reportSweep : Except Failure Sweep.Summary → Journal
  | .ok ⟨scanned, deleted, failed⟩ =>
    [.event ⟨.debug, .processor, "backup expiration sweep finished",
      [("scanned", .number scanned), ("deleted", .number deleted), ("failed", .number failed)]⟩]
  | .error failure => [.event ⟨.error, .processor, "backup expiration tick failed",
      [("error", .text failure.message)]⟩]

end Tick
end AuditTrail
