import AuditTrail.Proofs.SharedLog.Basic

/-! Every record reaches the handler exactly once. A tick owes the records of its backup until it
has read them. The invariant `Accounted` says that the records handled so far, together with those
owed, are the records of the bytes that left the live log. -/
namespace AuditTrail

open Dispatch (records)

variable {σ : Type}

/-- The items in `heard` together with those still owed are a permutation of `total`. -/
def Balance {α : Type} (heard total : List α) (owed : Nat → List α) : Prop :=
  ∃ debtors : List Nat, debtors.Nodup ∧ (∀ v, v ∉ debtors → owed v = []) ∧
    (heard ++ debtors.flatMap owed).Perm total

theorem Balance.pay {α : Type} {heard total paid new : List α} {owed owed' : Nat → List α} {v : Nat}
    (balance : Balance heard total owed) (others : ∀ u, u ≠ v → owed' u = owed u)
    (moved : owed v ++ new = paid ++ owed' v) : Balance (heard ++ paid) (total ++ new) owed' := by
  obtain ⟨debtors, distinct, support, even⟩ := balance
  have absent : v ∉ debtors.erase v := distinct.not_mem_erase
  refine ⟨v :: debtors.erase v, List.nodup_cons.2 ⟨absent, distinct.erase v⟩, ?_, ?_⟩
  · intro u other
    rw [List.mem_cons, not_or] at other
    rw [others u other.1]
    apply support u
    intro member
    exact other.2 ((List.mem_erase_of_ne other.1).2 member)
  · have rest : (debtors.erase v).flatMap owed' = (debtors.erase v).flatMap owed := by
      apply List.flatMap_congr
      intro u member
      apply others u
      rintro rfl
      exact absent member
    have apart : (debtors.flatMap owed).Perm (owed v ++ (debtors.erase v).flatMap owed) := by
      by_cases member : v ∈ debtors
      · exact (List.perm_cons_erase member).flatMap_right owed
      · rw [support v member, List.erase_of_not_mem member, List.nil_append]
    calc heard ++ paid ++ (v :: debtors.erase v).flatMap owed'
        = heard ++ (owed v ++ new) ++ (debtors.erase v).flatMap owed := by
          rw [List.flatMap_cons, rest, moved]
          simp only [List.append_assoc]
      _ = heard ++ (owed v ++ (new ++ (debtors.erase v).flatMap owed)) := by
          simp only [List.append_assoc]
      List.Perm _ (heard ++ (owed v ++ ((debtors.erase v).flatMap owed ++ new))) :=
          ((List.perm_append_comm.append_left _).append_left _)
      _ = heard ++ (owed v ++ (debtors.erase v).flatMap owed) ++ new := by
          simp only [List.append_assoc]
      List.Perm _ (heard ++ debtors.flatMap owed ++ new) :=
          (apart.symm.append_left heard).append_right new
      List.Perm _ (total ++ new) := even.append_right new

namespace LogUser

/-- The backup that a tick has made and not yet opened. -/
def due : LogUser σ → Option Path
  | .ticking (.rotating (.done (.ok rotated))) => some rotated.backup
  | .ticking (.opening backup) => some backup
  | _ => none

/-- The records that a user is still to hand on. -/
def owed (limit : Nat) (text : Path → Bytes) : LogUser σ → List Record
  | .ticking (.rotating (.done (.ok rotated))) => records limit (text rotated.backup)
  | .ticking (.opening backup) => records limit (text backup)
  | .ticking (.reading _ lines _ _) => lines.filterMap Dispatch.held?
  | _ => []

def inFlight : LogUser σ → Prop
  | .queued => True
  | .ticking (.done _) => False
  | .ticking _ => True
  | _ => False

instance : (user : LogUser σ) → Decidable user.inFlight
  | .queued | .ticking .waiting | .ticking .sizing | .ticking (.rotating _) | .ticking (.opening _)
  | .ticking (.reading ..) => .isTrue trivial
  | .away | .waiting | .writing _ | .ticking (.done _) => .isFalse id

variable {limit : Nat} {text text' : Path → Bytes} {user : LogUser σ}

theorem owed_congr (same : ∀ b, user.due = some b → text' b = text b) :
    user.owed limit text' = user.owed limit text := by
  unfold owed
  split
  · rw [same _ rfl]
  · rw [same _ rfl]
  · rfl
  · rfl

theorem owed_of_idle (idle : ¬ user.inFlight) : user.owed limit text = [] := by
  unfold owed
  split
  · exact absurd trivial idle
  · exact absurd trivial idle
  · exact absurd trivial idle
  · rfl

end LogUser

namespace SharedLog

def Idle (w : SharedLog σ) : Prop := ∀ v, ¬ (w.users v).inFlight

/-- The live log holds whole lines, except for the line that a writer is appending. -/
structure Lined (w : SharedLog σ) (text : Bytes) : Prop where
  part : ∀ v fresh, w.users v = .writing fresh → ∃ base, Lines.Closed base ∧ text = base ++ fresh
  whole : (∀ v fresh, w.users v ≠ .writing fresh) → Lines.Closed text

/-- The invariant: the records of all lines that have left the live log were heard or are owed by a tick. They
were heard in order if ticks do not overlap. -/
structure Accounted (single : Prop) (limit : Nat) (live : Path) (initial : Bytes) (w : SharedLog σ)
    (s : Site) : Prop where
  ledger : Ledger (.lone live) initial s
  view : w.Shows live s
  lined : w.Lined (s.files.text live)
  closed : ∀ b ∈ s.past.emptied, Lines.Closed (s.files.text b)
  due : ∀ v b, (w.users v).due = some b → b ∈ s.past.emptied
  balance : Balance w.heard (records limit (s.past.emptied.flatMap s.files.text))
    fun v => (w.users v).owed limit s.files.text
  ordered : single → ∃ v, (∀ u, u ≠ v → ¬ (w.users u).inFlight) ∧
    w.heard ++ (w.users v).owed limit s.files.text =
      records limit (s.past.emptied.flatMap s.files.text)

variable {handler : Handler σ} {settings : Settings} {single : Prop} {limit : Nat} {live : Path}
  {initial : Bytes} {w w' : SharedLog σ} {s s' : Site} {v u : Nat} {user : LogUser σ}

theorem Lined.keep {text : Bytes} (lined : w.Lined text)
    (same : ∀ v fresh, w'.users v = .writing fresh ↔ w.users v = .writing fresh) :
    w'.Lined text where
  part v fresh writing := lined.part v fresh ((same v fresh).1 writing)
  whole nobody := lined.whole fun v fresh writing => nobody v fresh ((same v fresh).2 writing)

theorem Accounted.alone (acc : Accounted single limit live initial w s)
    (inside : (s.visits v).inside) {fresh : Bytes} (writing : w.users u = .writing fresh) : u = v := by
  have stands := acc.view.users u
  rw [writing] at stands
  refine acc.ledger.exclusive.alone ?_ inside rfl
  rw [stands]
  trivial

theorem Accounted.nobody (acc : Accounted single limit live initial w s)
    (inside : (s.visits v).inside) : ∀ u, u ≠ v → ∀ fresh, w.users u ≠ .writing fresh := by
  intro u other fresh writing
  apply other
  exact acc.alone inside writing

/-- The step of one user, which may hand records on or take over a new backup. -/
theorem Accounted.change (acc : Accounted single limit live initial w s) (paid : List Record)
    (new : List Path) (ledger : Ledger (.lone live) initial s') (view : w'.Shows live s')
    (lined : w'.Lined (s'.files.text live))
    (kept : ∀ b ∈ s.past.emptied, s'.files.text b = s.files.text b)
    (users : w'.users = Function.update w.users v user)
    (emptied : s'.past.emptied = s.past.emptied ++ new)
    (closed : ∀ b ∈ new, Lines.Closed (s'.files.text b))
    (heard : w'.heard = w.heard ++ paid) (speaks : paid ≠ [] → (w.users v).inFlight)
    (moved : (w.users v).owed limit s.files.text ++ records limit (new.flatMap s'.files.text) =
      paid ++ user.owed limit s'.files.text)
    (due : ∀ b, user.due = some b → b ∈ s'.past.emptied)
    (begins : single → user.inFlight → (w.users v).inFlight ∨ w.Idle) :
    Accounted single limit live initial w' s' := by
  have others : ∀ u, u ≠ v → w'.users u = w.users u := by
    intro u other
    rw [users, Function.update_of_ne other]
  obtain rfl : w'.users v = user := by rw [users, Function.update_self]
  have owed : ∀ u, u ≠ v → (w'.users u).owed limit s'.files.text =
      (w.users u).owed limit s.files.text := by
    intro u other
    rw [others u other]
    exact LogUser.owed_congr fun b given => kept b (acc.due u b given)
  have total : records limit (s'.past.emptied.flatMap s'.files.text) =
      records limit (s.past.emptied.flatMap s.files.text) ++
        records limit (new.flatMap s'.files.text) := by
    rw [emptied, List.flatMap_append, List.flatMap_congr kept]
    exact Dispatch.records_append limit (Lines.Closed.flatMap acc.closed) _
  refine { ledger, view, lined, closed := ?_, due := ?_, balance := ?_, ordered := ?_ }
  · intro b member
    rw [emptied, List.mem_append] at member
    rcases member with old | fresh
    · rw [kept b old]
      exact acc.closed b old
    · exact closed b fresh
  · intro u b given
    by_cases same : u = v
    · subst same
      exact due b given
    · rw [others u same] at given
      rw [emptied]
      exact List.mem_append_left _ (acc.due u b given)
  · rw [heard, total]
    exact acc.balance.pay owed moved
  · intro apart
    obtain ⟨one, rest, even⟩ := acc.ordered apart
    rw [heard, total]
    by_cases same : v = one
    · subst same
      refine ⟨v, fun u other => ?_, ?_⟩
      · rw [others u other]
        exact rest u other
      · rw [List.append_assoc, ← moved, ← List.append_assoc, even]
    · have still : ¬ (w.users v).inFlight := rest v same
      obtain rfl : paid = [] := by
        by_contra spoken
        exact still (speaks spoken)
      rw [LogUser.owed_of_idle still, List.nil_append, List.nil_append] at moved
      by_cases flies : (w'.users v).inFlight
      · have idle := (begins apart flies).resolve_left still
        rw [LogUser.owed_of_idle (idle one), List.append_nil] at even
        refine ⟨v, fun u other => ?_, ?_⟩
        · rw [others u other]
          exact idle u
        · rw [List.append_nil, even, moved]
      · refine ⟨one, fun u other => ?_, ?_⟩
        · by_cases here : u = v
          · rw [here]
            exact flies
          · rw [others u here]
            exact rest u other
        · rw [moved, LogUser.owed_of_idle flies, owed one (Ne.symm same), List.append_nil,
            List.append_nil, even]

theorem Lined.step {text : Bytes} (lined : w.Lined text)
    (users : w'.users = Function.update w.users v user)
    (before : ∀ fresh, w.users v ≠ .writing fresh) (after : ∀ fresh, user ≠ .writing fresh) :
    w'.Lined text := by
  apply lined.keep
  intro u fresh
  rw [users, Function.update_apply]
  split
  · next same =>
    rw [same]
    constructor
    · intro writing
      exact absurd writing (after fresh)
    · intro writing
      exact absurd writing (before fresh)
  · exact Iff.rfl

theorem Lined.writing {text base fresh : Bytes} (closed : Lines.Closed base)
    (split : text = base ++ fresh) (users : w'.users = Function.update w.users v (.writing fresh))
    (nobody : ∀ u, u ≠ v → ∀ fresh, w.users u ≠ .writing fresh) : w'.Lined text where
  part u other writing := by
    rw [users, Function.update_apply] at writing
    split at writing
    · obtain rfl := LogUser.writing.inj writing
      exact ⟨base, closed, split⟩
    · next apart => exact absurd writing (nobody u apart other)
  whole none_ := by
    refine absurd ?_ (none_ v fresh)
    rw [users, Function.update_self]

theorem Lined.unwritten {text : Bytes} (closed : Lines.Closed text)
    (users : w'.users = Function.update w.users v user) (after : ∀ fresh, user ≠ .writing fresh)
    (nobody : ∀ u, u ≠ v → ∀ fresh, w.users u ≠ .writing fresh) : w'.Lined text where
  part u fresh writing := by
    rw [users, Function.update_apply] at writing
    split at writing
    · exact absurd writing (after fresh)
    · next apart => exact absurd writing (nobody u apart fresh)
  whole _ := closed

theorem Accounted.quiet (acc : Accounted single limit live initial w s) (paid : List Record)
    (ledger : Ledger (.lone live) initial s') (view : w'.Shows live s')
    (lined : w'.Lined (s.files.text live)) (files : s'.files = s.files)
    (emptied : s'.past.emptied = s.past.emptied)
    (users : w'.users = Function.update w.users v user)
    (heard : w'.heard = w.heard ++ paid) (speaks : paid ≠ [] → (w.users v).inFlight)
    (moved : (w.users v).owed limit s.files.text = paid ++ user.owed limit s.files.text)
    (due : ∀ b, user.due = some b → (w.users v).due = some b)
    (begins : single → user.inFlight → (w.users v).inFlight ∨ w.Idle) :
    Accounted single limit live initial w' s' := by
  refine acc.change paid [] ledger view (files ▸ lined) ?_ users ?_ nofun heard speaks ?_ ?_ begins
  · intro b _
    rw [files]
  · rw [emptied, List.append_nil]
  · rw [files, moved, List.flatMap_nil]
    exact List.append_nil _
  · intro b given
    rw [emptied]
    exact acc.due v b (due b given)

theorem Accounted.silent (acc : Accounted single limit live initial w s)
    (ledger : Ledger (.lone live) initial s') (view : w'.Shows live s')
    (lined : w'.Lined (s.files.text live)) (files : s'.files = s.files)
    (emptied : s'.past.emptied = s.past.emptied)
    (users : w'.users = Function.update w.users v user) (heard : w'.heard = w.heard)
    (before : (w.users v).owed limit s.files.text = []) (after : user.owed limit s.files.text = [])
    (due : user.due = none)
    (begins : single → user.inFlight → (w.users v).inFlight ∨ w.Idle) :
    Accounted single limit live initial w' s' := by
  apply acc.quiet [] ledger view lined files emptied users
  · rw [heard, List.append_nil]
  · intro spoken
    exact absurd rfl spoken
  · rw [before, after, List.append_nil]
  · intro b given
    rw [due] at given
    cases given
  · exact begins

theorem Accounted.ask (acc : Accounted single limit live initial w s) (away : s.visits v = .away)
    (before : ∀ fresh, w.users v ≠ .writing fresh) (owes : (w.users v).owed limit s.files.text = [])
    (waits : user = .waiting ∨ user = .queued ∧ (w.users v).inFlight) :
    ∃ s', Accounted single limit live initial { w.host v user with lock := w.lock.request v } s' := by
  have step : Step (.lone live) s (.ask v) _ := .ask away
  have ledger := (step.ledger trivial (fun _ _ => rfl) acc.ledger).1
  have view := acc.view.relock v (·.request v)
  have after : ∀ fresh, user ≠ .writing fresh := by
    rcases waits with rfl | ⟨rfl, -⟩ <;> nofun
  have lined : ({ w.host v user with lock := w.lock.request v } : SharedLog σ).Lined
      (s.files.text live) := acc.lined.step rfl before after
  rcases waits with rfl | ⟨rfl, flies⟩
  · refine ⟨_, acc.silent ledger (view.host rfl) lined rfl rfl rfl rfl owes rfl rfl ?_⟩
    nofun
  · refine ⟨_, acc.silent ledger (view.host rfl) lined rfl rfl rfl rfl owes rfl rfl ?_⟩
    intro _ _
    exact .inl flies

theorem Accounted.unoccupied (acc : Accounted single limit live initial w s)
    (granted : w.lock.holder = some v) (outside : s.visits v = .waiting) :
    ∀ u fresh, w.users u ≠ .writing fresh := by
  intro u fresh writing
  have stands := acc.view.users u
  rw [writing] at stands
  have held := acc.ledger.exclusive u (by rw [stands]; trivial)
  rw [acc.view.holder, granted] at held
  obtain rfl := Option.some.inj held
  rw [outside] at stands
  cases stands

theorem Accounted.write (acc : Accounted single limit live initial w s)
    (granted : w.lock.holder = some v) (here : w.users v = .waiting) :
    ∃ s', Accounted single limit live initial (w.host v (.writing [])) s' := by
  have outside := acc.view.users v
  rw [here] at outside
  have step : Step (.lone live) s (.write v) _ := .write outside ((acc.view.holder v).trans granted)
  have ledger := (step.ledger trivial (fun _ _ => rfl) acc.ledger).1
  have nobody := acc.unoccupied granted outside
  have lined : (w.host v (.writing [])).Lined (s.files.text live) :=
    .writing (acc.lined.whole nobody) (List.append_nil _).symm rfl fun u _ => nobody u
  have owes : (w.users v).owed limit s.files.text = [] := by rw [here]; rfl
  refine ⟨_, acc.silent ledger (acc.view.host rfl) lined rfl rfl rfl rfl owes rfl rfl ?_⟩
  nofun

theorem Accounted.grant (acc : Accounted single limit live initial w s)
    (granted : w.lock.holder = some v) (here : w.users v = .queued) :
    ∃ s', Accounted single limit live initial (w.host v (.ticking (.rotating .opening))) s' := by
  have outside := acc.view.users v
  rw [here] at outside
  have step : Step (.lone live) s (.rotate v) _ := .rotate outside ((acc.view.holder v).trans granted)
  have ledger := (step.ledger trivial (fun _ _ => rfl) acc.ledger).1
  have owes : (w.users v).owed limit s.files.text = [] := by rw [here]; rfl
  have flies : (w.users v).inFlight := by rw [here]; trivial
  have lined : (w.host v (.ticking (.rotating .opening))).Lined (s.files.text live) :=
    acc.lined.step rfl (by rw [here]; nofun) nofun
  refine ⟨_, acc.silent ledger (acc.view.host ⟨_, rfl, rfl⟩) lined rfl rfl rfl rfl owes rfl rfl ?_⟩
  intro _ _
  exact .inl flies

theorem Accounted.append (acc : Accounted single limit live initial w s) {fresh bytes : Bytes}
    (here : w.users v = .writing fresh) {files : Files}
    (appended : w.scene.files.append live bytes = .ok files) :
    ∃ s', Accounted single limit live initial
      { w.host v (.writing (fresh ++ bytes)) with
        scene := { w.scene with files }, written := w.written ++ bytes } s' := by
  have inside := acc.view.users v
  rw [here] at inside
  rw [← acc.view.files] at appended
  have step : Step (.lone live) s (.append v bytes) _ := .append inside appended
  obtain ⟨ledger, kept, text⟩ := acc.ledger.append (fun _ _ => rfl) inside appended
    (step.exclusive acc.ledger.exclusive) rfl rfl rfl
  obtain ⟨base, closed, split⟩ := acc.lined.part v fresh here
  have longer : files.text live = base ++ (fresh ++ bytes) := by
    rw [← List.append_assoc, ← split]
    exact text
  have nobody := acc.nobody (v := v) (by rw [inside]; trivial)
  have lined : ({ w.host v (.writing (fresh ++ bytes)) with
      scene := { w.scene with files }, written := w.written ++ bytes } : SharedLog σ).Lined
      (files.text live) := .writing closed longer rfl nobody
  refine ⟨_, acc.change [] [] ledger (acc.view.append inside) lined kept rfl ?_ nofun ?_ nofun ?_
    nofun nofun⟩
  · exact (List.append_nil _).symm
  · exact (List.append_nil _).symm
  · rw [here]
    rfl

theorem Accounted.leave (acc : Accounted single limit live initial w s) {fresh : Bytes}
    (here : w.users v = .writing fresh) (whole : Lines.Closed fresh) :
    ∃ s', Accounted single limit live initial { w.host v .away with lock := w.lock.release } s' := by
  have inside := acc.view.users v
  rw [here] at inside
  have step : Step (.lone live) s (.leave v) _ := .leave inside
  have ledger := (step.ledger trivial (fun _ _ => rfl) acc.ledger).1
  obtain ⟨base, closed, split⟩ := acc.lined.part v fresh here
  have nobody := acc.nobody (v := v) (by rw [inside]; trivial)
  have lined : ({ w.host v .away with lock := w.lock.release } : SharedLog σ).Lined
      (s.files.text live) := .unwritten (split ▸ closed.append whole) rfl nofun nobody
  have owes : (w.users v).owed limit s.files.text = [] := by rw [here]; rfl
  have view := acc.view.relock v Lock.release
  refine ⟨_, acc.silent ledger (view.host rfl) lined rfl rfl rfl rfl owes rfl rfl ?_⟩
  nofun

/-- A tick owns a backup from the moment when the live log was truncated. -/
theorem Accounted.emptied (acc : Accounted single limit live initial w s) {t : Turn}
    (turning : s.visits v = .rotating t) (ledger : Ledger (.lone live) initial s')
    (progress : Progress (.lone live) s s') {backup : Path}
    (recorded : s'.past.emptied = s.past.emptied ++ [backup])
    (written : s'.past.written = s.past.written) :
    s'.files.text live = [] ∧ Lines.Closed (s'.files.text backup) := by
  have apart : s'.past.emptied ≠ s.past.emptied := by
    rw [recorded]
    simp
  obtain ⟨other, emptying⟩ := progress.live.resolve_left fun same => apart same.1
  obtain rfl : other = backup := by
    have both := emptying.recorded.symm.trans recorded
    simpa using both
  have empty : s'.files.text live = [] := emptying.empty
  have held : s'.files.text other = s.files.text live := by
    have before := acc.ledger.balance
    have after := ledger.balance
    rw [recorded, written, ← before, List.flatMap_append, List.flatMap_congr progress.kept,
      List.append_assoc] at after
    have rest := List.append_cancel_left after
    rw [emptying.empty, List.flatMap_singleton, List.append_nil] at rest
    exact rest
  refine ⟨empty, ?_⟩
  rw [held]
  apply acc.lined.whole
  intro u fresh writing
  obtain rfl := acc.alone (by rw [turning]; trivial) writing
  have stands := acc.view.users u
  rw [writing, turning] at stands
  cases stands

theorem Accounted.unchanged (acc : Accounted single limit live initial w s)
    (ledger : Ledger (.lone live) initial s') (progress : Progress (.lone live) s s')
    (recorded : s'.past.emptied = s.past.emptied) (written : s'.past.written = s.past.written) :
    s'.files.text live = s.files.text live := by
  have before := acc.ledger.balance
  have after := ledger.balance
  rw [recorded, written, ← before, List.flatMap_congr progress.kept] at after
  exact List.append_cancel_left after

theorem owed_unready {stage : Rotation.Stage} (unready : ∀ rotated, stage ≠ .done (.ok rotated))
    (limit : Nat) (text : Path → Bytes) : (.ticking (.rotating stage) : LogUser σ).owed limit text = [] ∧
      (.ticking (.rotating stage) : LogUser σ).due = none := by
  cases stage with
  | done outcome =>
    cases outcome with
    | ok rotated => exact absurd rfl (unready rotated)
    | error failure => exact ⟨rfl, rfl⟩
  | _ => exact ⟨rfl, rfl⟩

/-- A rotation is done with a backup exactly when it has truncated the live log. -/
theorem emptied_after {r : Rotator} {now : Moment} {fault : Option Files.Fault} {f files : Files}
    {last : Nat} {t : Turn} {next : Rotation.Stage}
    (move : Rotation.Move r now fault f t.stage files last next) (c : History) (rotator : Nat) :
    (∃ rotated, next = .done (.ok rotated) ∧
      (c.after rotator f t next).emptied = c.emptied ++ [rotated.backup]) ∨
    (∀ rotated, next ≠ .done (.ok rotated)) ∧ (c.after rotator f t next).emptied = c.emptied := by
  generalize was : t.stage = stage at move
  cases move with
  | @emptied source bytes backup content regular =>
    refine .inl ⟨⟨backup, bytes⟩, rfl, ?_⟩
    simp only [History.after, was]
  | opened | taken =>
    exact .inr ⟨fun _ => Rotation.Stage.search_ne_done, History.emptied_after (by simp [was])⟩
  | unemptied =>
    refine .inr ⟨(by simp), ?_⟩
    simp only [History.after, was]
  | unopened | created | uncreated | copied | broken | unread | synced | unsynced | removed | kept =>
    exact .inr ⟨(by simp), History.emptied_after (by simp [was])⟩

theorem Accounted.request (acc : Accounted single limit live initial w s) {stage : Rotation.Stage}
    (here : w.users v = .ticking (.rotating stage)) (asks : (stage.asks live).isSome) (now : Moment)
    (fault : Option Files.Fault) : ∃ s', Accounted single limit live initial
      (w.carry handler settings v (.rotating stage) now fault) s' := by
  obtain ⟨t, turning, rfl⟩ := acc.view.stage here
  have step : Step (.lone live) s (.request v now fault) _ := .request turning asks
  obtain ⟨ledger, progress⟩ := step.ledger trivial (fun _ _ => rfl) acc.ledger
  have move := Rotation.step_move (w := s.rotation (.lone live) v t) now fault asks
  have written : (s.request (.lone live) v t now fault).past.written = s.past.written :=
    History.written_after ..
  obtain ⟨view, users, heard⟩ := acc.view.request asks handler settings v now fault
  have unready : ∀ rotated, t.stage ≠ .done (.ok rotated) := by
    intro rotated done
    rw [done] at asks
    cases asks
  have owes : (w.users v).owed limit s.files.text = [] := by
    rw [here]
    exact (owed_unready unready limit _).1
  have flies : (w.users v).inFlight := by
    rw [here]
    trivial
  have heard' : (w.carry handler settings v (.rotating t.stage) now fault).heard = w.heard ++ [] :=
    heard.trans (List.append_nil _).symm
  have nobody := acc.nobody (v := v) (by rw [turning]; trivial)
  rcases emptied_after move s.past 0 with ⟨rotated, done, recorded⟩ | ⟨other, recorded⟩
  · change (s.request (.lone live) v t now fault).past.emptied = _ at recorded
    obtain ⟨empty, closed⟩ := acc.emptied turning ledger progress recorded written
    rw [done] at users
    have lined : (w.carry handler settings v (.rotating t.stage) now fault).Lined
        ((s.request (.lone live) v t now fault).files.text live) := by
      rw [empty]
      exact .unwritten Lines.closed_nil users nofun nobody
    refine ⟨_, acc.change [] [_] ledger view lined progress.kept users recorded ?_ heard' nofun ?_
      ?_ ?_⟩
    · intro b member
      obtain rfl := List.mem_singleton.1 member
      exact closed
    · rw [owes, List.flatMap_singleton]
      rfl
    · intro b given
      obtain rfl := Option.some.inj given
      rw [recorded]
      exact List.mem_append_right _ (List.mem_singleton_self _)
    · intro _ _
      exact .inl flies
  · change (s.request (.lone live) v t now fault).past.emptied = _ at recorded
    obtain ⟨owes', undue⟩ := owed_unready other (σ := σ) limit
      (s.request (.lone live) v t now fault).files.text
    have lined : (w.carry handler settings v (.rotating t.stage) now fault).Lined
        ((s.request (.lone live) v t now fault).files.text live) := by
      rw [acc.unchanged ledger progress recorded written]
      exact acc.lined.step users (by rw [here]; nofun) nofun
    refine ⟨_, acc.change [] [] ledger view lined progress.kept users ?_ nofun heard' nofun ?_ ?_
      ?_⟩
    · rw [recorded, List.append_nil]
    · rw [owes]
      exact owes'.symm
    · intro b given
      rw [undue] at given
      cases given
    · intro _ _
      exact .inl flies

theorem Accounted.size (acc : Accounted single limit live initial w s)
    (here : w.users v = .ticking .sizing) (now : Moment) (fault : Option Files.Fault) :
    Accounted single limit live initial (w.carry handler settings v .sizing now fault) s := by
  have away := acc.view.users v
  rw [here] at away
  have owes : (w.users v).owed limit s.files.text = [] := by rw [here]; rfl
  have flies : (w.users v).inFlight := by rw [here]; trivial
  have files : (w.carry handler settings v .sizing now fault).scene.files = w.scene.files :=
    Processing.files_size w.scene.files fault settings.path
  obtain ⟨tick, users, rests⟩ := carry_sizing handler settings w v now fault
  have view := acc.view.carry (v := v) rfl files rfl users
  rcases rests with rfl | ⟨outcome, rfl⟩
  · have lined := acc.lined.step users (by rw [here]; nofun) nofun
    apply acc.silent acc.ledger (view away) lined rfl rfl users rfl owes rfl rfl
    intro _ _
    exact .inl flies
  · have lined := acc.lined.step users (by rw [here]; nofun) nofun
    apply acc.silent acc.ledger (view away) lined rfl rfl users rfl owes rfl rfl
    nofun

theorem Accounted.release (acc : Accounted single limit live initial w s)
    {outcome : Except Failure Rotation.Rotated}
    (here : w.users v = .ticking (.rotating (.done outcome))) (now : Moment)
    (fault : Option Files.Fault) : ∃ s', Accounted single limit live initial
      (w.carry handler settings v (.rotating (.done outcome)) now fault) s' := by
  obtain ⟨t, turning, ended⟩ := acc.view.stage here
  have step : Step (.lone live) s (.finish v) _ := .finish turning ended
  have ledger := (step.ledger trivial (fun _ _ => rfl) acc.ledger).1
  have flies : (w.users v).inFlight := by rw [here]; trivial
  refine ⟨_, acc.quiet [] ledger acc.view.release ?_ rfl rfl rfl ?_ nofun ?_ ?_ ?_⟩
  · exact acc.lined.step rfl (by rw [here]; nofun) (by cases outcome <;> nofun)
  · exact (List.append_nil _).symm
  · rw [here]
    cases outcome <;> rfl
  · rw [here]
    cases outcome with
    | ok rotated =>
      intro b given
      exact given
    | error failure => nofun
  · intro _ _
    exact .inl flies

/-- The backup of a tick is readable to its end. -/
theorem Accounted.source (acc : Accounted single limit live initial w s) {backup : Path}
    (here : w.users v = .ticking (.opening backup)) :
    w.scene.files.source backup = .ok [.bytes (s.files.text backup)] := by
  have member := acc.due v backup (by rw [here]; rfl)
  obtain ⟨n, names, -⟩ := acc.ledger.backups backup member
  have regular := (acc.ledger.regular backup member).inode? names.number
  rw [← acc.view.files]
  exact Files.source_of_number names.number regular

theorem Accounted.opened (acc : Accounted single settings.maxLineBytes.toNat live initial w s)
    {backup : Path} (here : w.users v = .ticking (.opening backup)) (now : Moment) :
    Accounted single settings.maxLineBytes.toNat live initial
      (w.carry handler settings v (.opening backup) now none) s := by
  have away := acc.view.users v
  rw [here] at away
  have flies : (w.users v).inFlight := by rw [here]; trivial
  have lines := Lines.read_bytes settings.maxLineBytes.toNat (s.files.text backup)
  have users : (w.carry handler settings v (.opening backup) now none).users =
      Function.update w.users v (.ticking (.reading backup
        ((Lines.cut (s.files.text backup)).map (Lines.judge settings.maxLineBytes.toNat)) none
        { state := w.scene.state })) := by
    simp only [SharedLog.carry, Processing.Course.step, Processing.opened, acc.source here,
      Processing.begin, lines]
    rfl
  have same : (w.carry handler settings v (.opening backup) now none).scene.files = w.scene.files ∧
      (w.carry handler settings v (.opening backup) now none).heard = w.heard := by
    simp only [SharedLog.heard, SharedLog.carry, Processing.Course.step, Processing.opened, acc.source here]
    exact ⟨rfl, rfl⟩
  have view := acc.view.carry (v := v) rfl same.1 rfl users away
  have lined := acc.lined.step users (by rw [here]; simp) (by simp)
  refine acc.quiet [] acc.ledger view lined rfl rfl users ?_ (by simp) ?_ (by rintro _ ⟨⟩) ?_
  · rw [same.2, List.append_nil]
  · rw [here]
    exact (Dispatch.filterMap_held? _ _).symm
  · intro _ _
    exact .inl flies

theorem Accounted.reading (acc : Accounted single limit live initial w s) {backup : Path}
    {lines : List Line} {ending : Option IoError} {d : Dispatch (σ × List Record)}
    (here : w.users v = .ticking (.reading backup lines ending d)) (now : Moment)
    (fault : Option Files.Fault) : Accounted single limit live initial
      (w.carry handler settings v (.reading backup lines ending d) now fault) s := by
  have away := acc.view.users v
  rw [here] at away
  have flies : (w.users v).inFlight := by rw [here]; trivial
  cases lines with
  | nil =>
    refine acc.quiet [] acc.ledger (acc.view.carry rfl rfl rfl rfl away) ?_ rfl rfl rfl ?_ nofun ?_
      nofun ?_
    · exact acc.lined.step rfl (by rw [here]; nofun) nofun
    · exact (List.append_nil _).symm
    · rw [here]
      rfl
    · intro _ _
      exact .inl flies
  | cons line lines =>
    have owed : (line :: lines).filterMap Dispatch.held? =
        (Dispatch.held? line).toList ++ lines.filterMap Dispatch.held? := by
      cases held : Dispatch.held? line <;> simp [held]
    refine acc.quiet (Dispatch.held? line).toList acc.ledger (acc.view.carry rfl rfl rfl rfl away) ?_
      rfl rfl rfl ?_ ?_ ?_ nofun ?_
    · exact acc.lined.step rfl (by rw [here]; nofun) nofun
    · exact Dispatch.take_recorded handler backup settings.maxLineBytes.toNat _ line
    · intro _
      exact flies
    · rw [here]
      exact owed
    · intro _ _
      exact .inl flies

theorem Accounted.carry
    (acc : Accounted single settings.maxLineBytes.toNat settings.path initial w s)
    {tick : Processing (σ × List Record)} (here : w.users v = .ticking tick) {now : Moment}
    {fault : Option Files.Fault} (goes : tick.goes fault = true) :
    ∃ s', Accounted single settings.maxLineBytes.toNat settings.path initial
      (w.carry handler settings v tick now fault) s' := by
  cases tick with
  | sizing => exact ⟨s, acc.size here now fault⟩
  | waiting | done outcome => cases goes
  | rotating stage =>
    by_cases asks : (stage.asks settings.path).isSome
    · exact acc.request here asks now fault
    · cases stage with
      | done outcome => exact acc.release here now fault
      | _ => exact absurd rfl asks
  | opening backup =>
    obtain rfl : fault = none := Option.isNone_iff_eq_none.1 goes
    exact ⟨s, acc.opened here now⟩
  | reading backup lines ending d => exact ⟨s, acc.reading here now fault⟩

/-- No tick begins while another is in flight. -/
def Alone (w : SharedLog σ) (d : LogAction) : Prop := ∀ v, d = .begin v → w.Idle

theorem Accounted.begins (acc : Accounted single limit live initial w s) (here : w.users v = .away)
    (fair : single → w.Idle) : Accounted single limit live initial (w.host v (.ticking .sizing)) s := by
  have away := acc.view.users v
  rw [here] at away
  have owes : (w.users v).owed limit s.files.text = [] := by rw [here]; rfl
  have view : (w.host v (.ticking .sizing)).Shows live s := acc.view.unseen away
  have lined : (w.host v (.ticking .sizing)).Lined (s.files.text live) :=
    acc.lined.step rfl (by rw [here]; nofun) nofun
  apply acc.silent acc.ledger view lined rfl rfl rfl rfl owes rfl rfl
  intro apart _
  exact .inr (fair apart)

theorem Accounted.finish (acc : Accounted single limit live initial w s)
    {outcome : Except Failure (Option Summary)} (here : w.users v = .ticking (.done outcome)) :
    Accounted single limit live initial (w.host v .away) s := by
  have away := acc.view.users v
  rw [here] at away
  have owes : (w.users v).owed limit s.files.text = [] := by rw [here]; rfl
  have view : (w.host v .away).Shows live s := acc.view.unseen away
  have lined : (w.host v .away).Lined (s.files.text live) :=
    acc.lined.step rfl (by rw [here]; nofun) nofun
  apply acc.silent acc.ledger view lined rfl rfl rfl rfl owes rfl rfl
  nofun

theorem Accounted.act (acc : Accounted single settings.maxLineBytes.toNat settings.path initial w s)
    {d : LogAction} (fair : single → w.Alone d) (acted : w.act handler settings d = some w') :
    ∃ s', Accounted single settings.maxLineBytes.toNat settings.path initial w' s' := by
  cases comes acted with
  | @ask v here =>
    have away := acc.view.users v
    rw [here] at away
    exact acc.ask away (by rw [here]; simp) (by rw [here]; rfl) (.inl rfl)
  | @queue v here =>
    have away := acc.view.users v
    rw [here] at away
    exact acc.ask away (by rw [here]; simp) (by rw [here]; rfl) (.inr ⟨rfl, by rw [here]; trivial⟩)
  | write granted here => exact acc.write granted here
  | rotate granted here => exact acc.grant granted here
  | append here appended => exact acc.append here appended
  | leave here whole => exact acc.leave here whole
  | begin here => exact ⟨s, acc.begins here fun apart => fair apart _ rfl⟩
  | carry here goes => exact acc.carry here goes
  | finish here => exact ⟨s, acc.finish here⟩

theorem Accounted.origin {files : Files} (sound : files.Sound) (plain : files.Plain live)
    (whole : Lines.Closed (files.text live)) (state : σ) :
    Accounted single limit live (files.text live) (fresh files state live) { files } where
  ledger := .origin sound plain
  view := ⟨rfl, rfl, rfl, rfl, fun _ => rfl⟩
  lined := ⟨nofun, fun _ => whole⟩
  closed _ member := absurd member List.not_mem_nil
  due _ _ given := nomatch given
  balance := ⟨[], List.nodup_nil, fun _ _ => rfl, .refl _⟩
  ordered _ := ⟨0, fun _ _ => id, rfl⟩

theorem Run.accounted (single : Prop) {allowed : SharedLog σ → LogAction → Prop} {start : SharedLog σ}
    (fair : ∀ w d, allowed w d → single → w.Alone d) (run : Run handler settings allowed start w)
    (acc : ∃ s, Accounted single settings.maxLineBytes.toNat settings.path initial start s) :
    ∃ s, Accounted single settings.maxLineBytes.toNat settings.path initial w s := by
  induction run with
  | here => exact acc
  | next _ allows acted ih =>
    obtain ⟨s, before⟩ := ih
    exact before.act (fair _ _ allows) acted

theorem Accounted.settle (acc : Accounted single limit live initial w s) (idle : w.Idle) :
    ∃ gone, Lines.Closed gone ∧ initial ++ w.written = gone ++ w.scene.files.text live ∧
      w.heard.Perm (records limit gone) ∧ (single → w.heard = records limit gone) := by
  refine ⟨s.past.emptied.flatMap s.files.text, .flatMap acc.closed, ?_, ?_, ?_⟩
  · rw [← acc.view.written, ← acc.view.files]
    exact acc.ledger.balance.symm
  · obtain ⟨debtors, -, -, even⟩ := acc.balance
    have nothing : debtors.flatMap (fun v => (w.users v).owed limit s.files.text) = [] :=
      List.flatMap_eq_nil_iff.2 fun v _ => LogUser.owed_of_idle (idle v)
    rwa [nothing, List.append_nil] at even
  · intro apart
    obtain ⟨v, -, even⟩ := acc.ordered apart
    rwa [LogUser.owed_of_idle (idle v), List.append_nil] at even

end SharedLog

/-- Whenever no tick is in flight, the handler has been called exactly once for each record in the lines that
have left the live log. The calls are in order if no two ticks overlapped. -/
theorem heard_once (handler : Handler σ) (settings : Settings) {files : Files} (sound : files.Sound)
    (plain : files.Plain settings.path) (whole : Lines.Closed (files.text settings.path)) (state : σ)
    {w : SharedLog σ} (run : SharedLog.Run handler settings (fun _ _ => True)
      (.fresh files state settings.path) w) (idle : w.Idle) :
    ∃ gone, Lines.Closed gone ∧
      files.text settings.path ++ w.written = gone ++ w.scene.files.text settings.path ∧
      w.heard.Perm (records settings.maxLineBytes.toNat gone) ∧
      (SharedLog.Run handler settings SharedLog.Alone (.fresh files state settings.path) w →
        w.heard = records settings.maxLineBytes.toNat gone) := by
  obtain ⟨s, acc⟩ := run.accounted False (fun _ _ _ => False.elim)
    ⟨_, .origin sound plain whole state⟩
  obtain ⟨gone, closed, split, all, -⟩ := acc.settle idle
  refine ⟨gone, closed, split, all, fun ordered => ?_⟩
  obtain ⟨s', acc'⟩ := ordered.accounted True (fun _ _ alone _ => alone)
    ⟨_, .origin sound plain whole state⟩
  obtain ⟨gone', -, split', -, inOrder⟩ := acc'.settle idle
  obtain rfl : gone = gone' := List.append_cancel_right (split.symm.trans split')
  exact inOrder trivial

theorem heard_once_line : ∃ w : SharedLog Unit,
    SharedLog.Run Violations.handler { path := ⟨[0x61]⟩ } (fun _ _ => True)
      (.fresh (.single [0x61] []) () ⟨[0x61]⟩) w ∧
    w.Idle ∧ w.heard = [{}] ∧ ∃ gone, Lines.Closed gone ∧
      (Files.single [0x61] []).text ⟨[0x61]⟩ ++ w.written = gone ++ w.scene.files.text ⟨[0x61]⟩ ∧
      w.heard.Perm (records 1048576 gone) := by
  let settings : Settings := { path := ⟨[0x61]⟩ }
  let start : SharedLog Unit := .fresh (.single [0x61] []) () settings.path
  let carry : LogAction := .carry 0 ⟨0⟩ none
  let actions : List LogAction := [.ask 1, .enter 1, .append 1 [0x7B, 0x7D, 0x0A], .leave 1, .begin 0, carry,
    .ask 0, .enter 0, carry, carry, carry, carry, carry, carry, carry, carry, carry, .finish 0]
  have plain : start.scene.files.Plain settings.path := by
    intro n leads
    obtain rfl : 0 = n := Except.ok.inj leads
    exact ⟨[], rfl⟩
  have ends : (start.play Violations.handler settings actions).map
      (fun w => (w.heard, decide ((w.users 0).inFlight ∨ (w.users 1).inFlight))) =
      some ([{}], false) := by decide +kernel
  obtain ⟨w, played, results⟩ := Option.map_eq_some_iff.1 ends
  obtain ⟨heard, rests⟩ := Prod.mk.inj results
  have run : SharedLog.Run Violations.handler settings (fun _ _ => True) start w :=
    SharedLog.run_of_play .here played
  have idle : w.Idle := by
    intro u flies
    by_cases zero : u = 0
    · exact of_decide_eq_false rests (.inl (zero ▸ flies))
    by_cases one : u = 1
    · exact of_decide_eq_false rests (.inr (one ▸ flies))
    have away : w.users u = .away := SharedLog.play_others played
      (by simp [actions, carry, LogAction.user, zero, one])
    rw [away] at flies
    exact flies
  obtain ⟨lines, closed, split, all, -⟩ :=
    heard_once Violations.handler settings (Files.sound_single _ _) plain Lines.closed_nil () run idle
  exact ⟨w, run, idle, heard, lines, closed, split, all⟩

end AuditTrail
