import AuditTrail.Proofs.Listing

/-! The effect of a sweep, whichever of its removals fail. The candidates depend on the directory
entries alone; each is tried once, and a successful removal takes that entry away and nothing else.
So the files after a sweep are those before it `without` some places. -/
namespace AuditTrail

namespace Files

variable {f : Files} {places more : List Place} {place other : Place}

/-- The files without the entries at some places. -/
def without (f : Files) (places : List Place) : Files :=
  { f with nodes := f.nodes.filter (·.1 ∉ places) }

@[simp] theorem without_nil : f.without [] = f := by
  simp [without]

theorem erase_eq_without : f.erase place = f.without [place] := by
  simp only [erase, without, List.mem_singleton]
  congr 2
  funext entry
  by_cases same : entry.1 = place <;> simp [same]

theorem without_without : (f.without places).without more = f.without (places ++ more) := by
  simp only [without, List.filter_filter, List.mem_append]
  congr 2
  funext entry
  by_cases first : entry.1 ∈ places <;> by_cases second : entry.1 ∈ more <;> simp [first, second]

theorem without_congr (same : ∀ place, place ∈ places ↔ place ∈ more) :
    f.without places = f.without more := by
  simp only [without, same]

theorem node?_without (below : ∀ place ∈ places, place ≠ []) (other : Place) :
    (f.without places).node? other = if other ∈ places then none else f.node? other := by
  by_cases root : other = []
  · subst root
    rw [if_neg fun member => below _ member rfl]
    rfl
  · rw [node?_eq root, node?_eq root, without, List.find?_filter]
    by_cases gone : other ∈ places
    · rw [if_pos gone, Option.map_eq_none_iff, List.find?_eq_none]
      intro entry _
      by_cases same : entry.1 = other <;> simp [same, gone]
    · rw [if_neg gone]
      congr 2
      funext entry
      by_cases same : entry.1 = other <;> simp [same, gone]

def Filed (f : Files) (places : List Place) : Prop :=
  ∀ place ∈ places, ∃ n, f.node? place = some (.file n)

theorem Filed.below (filed : f.Filed places) : ∀ place ∈ places, place ≠ [] := by
  intro place member
  obtain ⟨n, file⟩ := filed place member
  exact ne_root_of_file file

theorem SameWays.without (filed : f.Filed places) : SameWays f (f.without places) := by
  refine ⟨rfl, fun other => ?_⟩
  rw [node?_without filed.below]
  split
  · next gone =>
    obtain ⟨n, file⟩ := filed other gone
    rw [file]
    rfl
  · rfl

theorem Sound.without (sound : f.Sound) (filed : f.Filed places) : (f.without places).Sound where
  numbered other n file := by
    rw [node?_without filed.below] at file
    split at file
    · cases file
    · exact sound.numbered other n file
  single := sound.single.sublist (List.filter_sublist.map _)
  rooted other dir := by
    have ways := SameWays.without filed
    exact ways.directory (sound.rooted other (ways.symm.directory dir))

end Files

namespace Backup

open AuditTrail.Path (slash)

variable {f : Files} {live p : Path} {base name : Bytes} {above : Place} {t : Nat} {b : Listed}
  {retention : Duration} {now : Moment}

/-- `name` is the name of the backup of the log `base` for the second `t`. -/
def Dated (base name : Bytes) (t : Nat) : Prop :=
  ∃ digits, name = base ++ point :: digits ∧ digits ≠ [] ∧ (∀ b ∈ digits, isDigit b = true) ∧
    value digits = t

theorem timestamp?_eq_some :
    timestamp? base name = some t ↔ Dated base name t ∧ t < UInt64.size := by
  constructor
  · intro dated
    refine ⟨digits_of_timestamp? dated, ?_⟩
    obtain ⟨digits, -, judged⟩ := Option.bind_eq_some_iff.1 dated
    simp only [Option.ite_none_right_eq_some, Bool.and_eq_true, decide_eq_true_eq] at judged
    obtain ⟨⟨-, low⟩, same⟩ := judged
    exact Option.some.inj same ▸ low
  · rintro ⟨⟨digits, rfl, present, all, rfl⟩, low⟩
    have split : base ++ point :: digits = base ++ [point] ++ digits := by simp
    rw [timestamp?, after?, split, if_pos (List.isPrefixOf_iff_prefix.2 (List.prefix_append _ _)),
      List.drop_left, Option.bind_some, if_pos]
    simp only [Bool.and_eq_true, Bool.not_eq_true', List.isEmpty_eq_false_iff, List.all_eq_true,
      decide_eq_true_eq]
    exact ⟨⟨present, all⟩, low⟩

theorem Dated.legible (text : Utf8.Legible base) (dated : Dated base name t) : Utf8.Legible name := by
  obtain ⟨digits, rfl, -, all, -⟩ := dated
  refine text.append (Utf8.legible_of_small ?_)
  rw [List.forall_mem_cons]
  refine ⟨by decide, fun b member => ?_⟩
  have digit := all b member
  simp only [isDigit, Bool.and_eq_true, decide_eq_true_eq] at digit
  exact UInt8.lt_of_le_of_lt digit.2 (by decide)

/-- A regular file in the directory `above` with the name of a backup. -/
def Stands (f : Files) (base : Bytes) (above : Place) (name : Bytes) (t : Nat) : Prop :=
  Dated base name t ∧ t < UInt64.size ∧
    ∃ n content, f.node? (name :: above) = some (.file n) ∧ f.inode? n = some (.regular content)

theorem Stands.dated (stands : Stands f base above name t) : timestamp? base name = some t :=
  timestamp?_eq_some.2 ⟨stands.1, stands.2.1⟩

def Old (retention : Duration) (now : Moment) (t : Nat) : Prop :=
  t < 9223372036854775808 ∧ (t : Int) * 1000000000 ≤ now.nanos ∧
    (retention.nanos : Int) < now.nanos - t * 1000000000

/-- A backup is expired if it is strictly older than the retention, or if its age exceeds every duration. -/
theorem isExpired_eq_true : isExpired retention now b = true ↔
    Old retention now b.timestamp ∧ now.nanos - b.timestamp * 1000000000 < Duration.limit := by
  unfold isExpired age? Old
  by_cases past : b.timestamp < 9223372036854775808 ∧ (b.timestamp : Int) * 1000000000 ≤ now.nanos
  · simp only [if_pos past]
    unfold Duration.ofNanos? Duration.limit
    split
    · next age found =>
      split at found
      · obtain rfl := Option.some.inj found
        rw [decide_eq_true_eq]
        change retention.nanos < (now.nanos - b.timestamp * 1000000000).toNat ↔ _
        omega
      · cases found
    · next found =>
      split at found
      · cases found
      · simp only [Bool.false_eq_true, false_iff]
        omega
  · simp only [if_neg past, Bool.false_eq_true, false_iff]
    omega

theorem isExpired_iff (clock : now.nanos < Duration.limit) :
    isExpired retention now b = true ↔ Old retention now b.timestamp := by
  rw [isExpired_eq_true, and_iff_left_iff_imp]
  rintro ⟨-, past, -⟩
  omega

theorem Old.later {later : Moment} (old : Old retention now t) (after : now.nanos ≤ later.nanos) :
    Old retention later t := by
  obtain ⟨shown, past, older⟩ := old
  exact ⟨shown, by omega, by omega⟩

theorem isRegular_iff {node : Node} :
    f.isRegular node = true ↔ ∃ n content, node = .file n ∧ f.inode? n = some (.regular content) := by
  unfold Files.isRegular
  constructor
  · intro regular
    split at regular
    · next n =>
      split at regular
      · next content found => exact ⟨n, content, rfl, found⟩
      · cases regular
    · cases regular
  · rintro ⟨n, content, rfl, found⟩
    simp only [found]

theorem shown_iff (text : Utf8.Legible base) : Shown f base p above b ↔
    ∃ name, Stands f base above name b.timestamp ∧ b.path = p.join name := by
  constructor
  · rintro ⟨name, node, there, counted⟩
    obtain ⟨regular, -, dated, path⟩ := ofEntry_eq_some.1 counted
    obtain ⟨n, content, rfl, held⟩ := isRegular_iff.1 regular
    obtain ⟨spelled, low⟩ := timestamp?_eq_some.1 dated
    exact ⟨name, ⟨spelled, low, n, content, there, held⟩, path⟩
  · rintro ⟨name, ⟨spelled, low, n, content, there, held⟩, path⟩
    exact ⟨name, .file n, there, ofEntry_eq_some.2 ⟨isRegular_iff.2 ⟨n, content, rfl, held⟩,
      spelled.legible text, timestamp?_eq_some.2 ⟨spelled, low⟩, path⟩⟩

theorem lead_of_join {dir : Path} (present : dir.bytes ≠ []) (whole : slash ∉ name) :
    lead (dir.join name) = name := by
  have relative : name.head? ≠ some slash := fun first => whole (List.mem_of_head? first)
  unfold Path.join
  rw [if_neg relative]
  split
  · next ended =>
    obtain ⟨d, spelled⟩ := List.getLast?_eq_some_iff.1 (ended.resolve_left present)
    rw [spelled, List.append_assoc, List.singleton_append, Path.lead_join,
      Path.lead_whole whole]
  · rw [Path.lead_join, Path.lead_whole whole]

end Backup

namespace Sweep

open Backup (Listed Stands Old lead dir)
open AuditTrail.Path (slash)

/-- The removals that a sweep has tried, with their answers, and the resulting state. -/
structure Removals where
  tried : List (Listed × Files.Answer)
  sweep : Sweep
  files : Files

/-- Runs a number of removals. Each may be spoilt. -/
def removals (spoils : Path → Option Files.Fault) : Nat → Files → Sweep → Removals
  | 0, f, s => ⟨[], s, f⟩
  | fuel + 1, f, s =>
    match s.pending with
    | [] => ⟨[], s, f⟩
    | b :: _ =>
      let rest := removals spoils fuel (s.step (spoils b.path) f).2.1 (s.step (spoils b.path) f).1
      { rest with tried := (b, (f.serve (spoils b.path) (.remove b.path)).1) :: rest.tried }

def conducted (spoils : Path → Option Files.Fault) (f : Files) (s : Sweep) : Removals :=
  removals spoils s.pending.length f s

def isDenied : Files.Answer → Bool
  | .ok _ => false
  | .error cause => cause.kind ≠ .notFound

variable {spoils : Path → Option Files.Fault} {f g : Files} {s : Sweep} {fuel : Nat} {above : Place}
  {live : Path} {base : Bytes} {retention : Duration} {now : Moment}

theorem removals_nil (nothing : s.pending = []) : removals spoils fuel f s = ⟨[], s, f⟩ := by
  cases fuel with
  | zero => rfl
  | succ fuel => simp only [removals, nothing]

theorem next_eq (s : Sweep) (answer : Files.Answer) : s.next answer =
    ⟨s.pending.tail, s.scanned, s.deleted + (if answer.isOk then 1 else 0),
      s.failed + (if isDenied answer then 1 else 0)⟩ := by
  cases answer with
  | ok n => rfl
  | error cause =>
    unfold next isDenied
    by_cases gone : cause.kind = .notFound <;> simp [gone, Except.isOk, Except.toBool]

theorem removals_counts (spoils : Path → Option Files.Fault) (fuelled : s.pending.length = fuel) :
    (removals spoils fuel f s).tried.map (·.1) = s.pending ∧
    (removals spoils fuel f s).sweep = ⟨[], s.scanned,
      s.deleted + (removals spoils fuel f s).tried.countP (·.2.isOk),
      s.failed + (removals spoils fuel f s).tried.countP (isDenied ·.2)⟩ := by
  induction fuel generalizing f s with
  | zero =>
    have nothing := List.length_eq_zero_iff.1 fuelled
    refine ⟨by simp [removals, nothing], ?_⟩
    obtain ⟨pending, scanned, deleted, failed⟩ := s
    obtain rfl := nothing
    rfl
  | succ fuel ih =>
    obtain ⟨b, rest, pending⟩ := List.exists_cons_of_length_eq_add_one fuelled
    have left : (s.step (spoils b.path) f).1.pending = rest := by rw [pending_step, pending, List.tail_cons]
    have taken : (s.step (spoils b.path) f).1 = s.next (f.serve (spoils b.path) (.remove b.path)).1 := by
      simp only [step, pending]
    rw [pending, List.length_cons, Nat.add_right_cancel_iff] at fuelled
    obtain ⟨tried, counted⟩ := ih (f := (s.step (spoils b.path) f).2.1) (left.symm ▸ fuelled)
    simp only [removals, pending, List.map_cons, tried, left, counted, List.countP_cons, true_and]
    rw [taken, next_eq]
    simp only [mk.injEq, true_and]
    exact ⟨by omega, by omega⟩

def spot (above : Place) (b : Listed) : Place := lead b.path :: above

def vacated (above : Place) (tried : List (Listed × Files.Answer)) : List Place :=
  (tried.filter (·.2.isOk)).map (spot above ·.1)

/-- The backups are distinct files of the directory, and their paths lead to them, if anywhere. -/
structure Fit (f : Files) (above : Place) (backups : List Listed) : Prop where
  file : ∀ b ∈ backups, ∃ n, f.node? (spot above b) = some (.file n)
  leads : ∀ b ∈ backups, ∀ found, f.find false b.path = .ok found → found.place = spot above b
  apart : backups.Pairwise fun b b' => spot above b ≠ spot above b'

theorem Fit.tail {b : Listed} {rest : List Listed} (fit : Fit f above (b :: rest))
    (ways : f.SameWays g) (stays : ∀ place, place ≠ spot above b → g.node? place = f.node? place) :
    Fit g above rest where
  file b' member := by
    rw [stays _ ((List.pairwise_cons.1 fit.apart).1 b' member).symm]
    exact fit.file b' (List.mem_cons_of_mem _ member)
  leads b' member found leads := by
    have home := fit.leads b' (List.mem_cons_of_mem _ member) _ (ways.symm.find leads)
    exact home
  apart := (List.pairwise_cons.1 fit.apart).2

def Reaches (f : Files) (p : Path) : Prop := ∃ found, f.find false p = .ok found

theorem Reaches.same {p : Path} (ways : f.SameWays g) (reaches : Reaches f p) : Reaches g p := by
  obtain ⟨found, leads⟩ := reaches
  exact ⟨_, ways.find leads⟩

theorem vacated_cons (t : Listed × Files.Answer) (tried : List (Listed × Files.Answer)) :
    vacated above (t :: tried) = vacated above [t] ++ vacated above tried := by
  rw [vacated, ← List.singleton_append, List.filter_append, List.map_append]
  rfl

theorem serve_remove {b : Listed} {rest : List Listed} (fit : Fit f above (b :: rest))
    {fault : Option Files.Fault} {answer : Files.Answer}
    (served : f.serve fault (.remove b.path) = (answer, g)) :
    g = f.without (vacated above [(b, answer)]) ∧
      (answer.isOk ↔ fault = none ∧ Reaches f b.path) := by
  cases fault with
  | some spoilt =>
    obtain ⟨rfl, rfl⟩ := Prod.mk.inj served
    exact ⟨Files.without_nil.symm, by simp [Except.isOk, Except.toBool]⟩
  | none =>
    simp only [Files.serve, Files.answer, Files.remove] at served
    cases leads : f.find false b.path with
    | error cause =>
      simp only [leads] at served
      obtain ⟨rfl, rfl⟩ := Prod.mk.inj served
      exact ⟨Files.without_nil.symm, by simp [Except.isOk, Except.toBool, Reaches, leads]⟩
    | ok found =>
      obtain ⟨n, file⟩ := fit.file b List.mem_cons_self
      have here := fit.leads b List.mem_cons_self found leads
      have there := Files.node?_of_find leads
      obtain ⟨place, node⟩ := found
      obtain rfl := here
      obtain rfl := there.trans file
      simp only [leads] at served
      obtain ⟨rfl, rfl⟩ := Prod.mk.inj served
      exact ⟨Files.erase_eq_without, by simp [Except.isOk, Except.toBool, Reaches, leads]⟩

/-- Exactly the files of the successful removals are gone. A removal succeeds unless it is spoilt or its path
cannot be followed. -/
theorem removals_files (spoils : Path → Option Files.Fault) (fuel : Nat) (fit : Fit f above s.pending) :
    (removals spoils fuel f s).files = f.without (vacated above (removals spoils fuel f s).tried) ∧
    ∀ b answer, (b, answer) ∈ (removals spoils fuel f s).tried →
      (answer.isOk ↔ spoils b.path = none ∧ Reaches f b.path) := by
  induction fuel generalizing f s with
  | zero => exact ⟨Files.without_nil.symm, fun _ _ member => absurd member List.not_mem_nil⟩
  | succ fuel ih =>
    cases pending : s.pending with
    | nil =>
      rw [removals_nil pending]
      exact ⟨Files.without_nil.symm, fun _ _ member => absurd member List.not_mem_nil⟩
    | cons b rest =>
      rw [pending] at fit
      simp only [removals, pending]
      generalize served : f.serve (spoils b.path) (.remove b.path) = reply
      obtain ⟨answer, g⟩ := reply
      have left : (s.step (spoils b.path) f).1.pending = rest := by rw [pending_step, pending, List.tail_cons]
      have files : (s.step (spoils b.path) f).2.1 = g := by simp only [step, pending, served]
      obtain ⟨taken, succeeds⟩ := serve_remove fit served
      have only : ∀ place ∈ vacated above [(b, answer)], place = spot above b := by
        intro place member
        obtain ⟨t, listed, rfl⟩ := List.mem_map.1 member
        rw [List.mem_singleton.1 (List.mem_filter.1 listed).1]
      have filed : f.Filed (vacated above [(b, answer)]) := fun place member =>
        only place member ▸ fit.file b List.mem_cons_self
      have ways := Files.SameWays.without filed
      have fit' : Fit g above rest := by
        rw [taken]
        refine fit.tail ways fun place other => ?_
        rw [Files.node?_without filed.below, if_neg fun member => other (only place member)]
      rw [← left] at fit'
      rw [files]
      obtain ⟨without, answers⟩ := ih fit'
      refine ⟨?_, fun b' answer' member => ?_⟩
      · rw [vacated_cons, ← Files.without_without, ← taken]
        exact without
      · rcases List.mem_cons.1 member with same | later
        · obtain ⟨rfl, rfl⟩ := Prod.mk.inj same
          exact succeeds
        · rw [answers b' answer' later, taken]
          exact ⟨fun both => ⟨both.1, both.2.same ways.symm⟩, fun both => ⟨both.1, both.2.same ways⟩⟩

theorem finish_eq : (s.finish f).1 = (s.conducted (fun _ => none) f).sweep.summary ∧
    (s.finish f).2.1 = (s.conducted (fun _ => none) f).files := by
  have goes : ∀ fuel f s met, (finish.go f s fuel met).1 = (removals (fun _ => none) fuel f s).sweep.summary ∧
      (finish.go f s fuel met).2.1 = (removals (fun _ => none) fuel f s).files := by
    intro fuel
    induction fuel with
    | zero => exact fun _ _ _ => ⟨rfl, rfl⟩
    | succ fuel ih =>
      intro f s met
      cases pending : s.pending with
      | nil =>
        have idle : s.step none f = (s, f, []) := by simp only [step, pending]
        simp only [finish.go, idle]
        rw [removals_nil pending, (ih ..).1, (ih ..).2, removals_nil pending]
        exact ⟨rfl, rfl⟩
      | cons b rest =>
        simp only [finish.go, removals, pending]
        exact ih ..
  exact goes _ f s []

def Due (f : Files) (base : Bytes) (above : Place) (retention : Duration) (now : Moment)
    (name : Bytes) : Prop :=
  ∃ t, Stands f base above name t ∧ Old retention now t

/-- The effect of a sweep, in terms of the entries of the directory. -/
structure Exact (f : Files) (live : Path) (base : Bytes) (above : Place) (retention : Duration)
    (now : Moment) (spoils : Path → Option Files.Fault) (c : Removals) : Prop where
  scanned : ∃ names : List Bytes, names.Nodup ∧
    (∀ name, name ∈ names ↔ ∃ t, Stands f base above name t) ∧ c.sweep.scanned = names.length
  once : (c.tried.map (·.1.path)).Nodup
  tried : ∀ p, p ∈ c.tried.map (·.1.path) ↔
    ∃ name, Due f base above retention now name ∧ p = (dir live).join name
  answers : ∀ b answer, (b, answer) ∈ c.tried →
    (answer.isOk ↔ spoils b.path = none ∧ Reaches f b.path)
  finished : c.sweep.pending = []
  deleted : c.sweep.deleted = c.tried.countP (·.2.isOk)
  failed : c.sweep.failed = c.tried.countP (isDenied ·.2)
  files : ∃ gone, c.files = f.without gone ∧ ∀ place, place ∈ gone ↔
    ∃ name, place = name :: above ∧ Due f base above retention now name ∧
      spoils ((dir live).join name) = none ∧ Reaches f ((dir live).join name)

section Exact

theorem slash_not_mem_of_stands (named : live.fileName? = some base) {name : Bytes} {t : Nat}
    (stands : Stands f base above name t) : slash ∉ name :=
  Backup.slash_not_mem_of_timestamp? (Backup.slash_not_mem_fileName? named) stands.dated

theorem lead_join (named : live.fileName? = some base)
    (opened : f.find true (dir live) = .ok ⟨above, some .directory⟩) {name : Bytes} {t : Nat}
    (stands : Stands f base above name t) : lead ((dir live).join name) = name :=
  Backup.lead_of_join (Files.find_eq_ok.1 opened).2.1 (slash_not_mem_of_stands named stands)

variable (sound : f.Sound) (named : live.fileName? = some base) (text : Utf8.Legible base)
  (opened : f.find true (dir live) = .ok ⟨above, some .directory⟩)
include sound named text opened

theorem exists_standing : ∃ backups, Backup.list f live = .ok backups ∧
    (backups.Pairwise fun b b' => lead b.path ≠ lead b'.path) ∧
    ∀ b, b ∈ backups ↔ Stands f base above (lead b.path) b.timestamp ∧
      b.path = (dir live).join (lead b.path) := by
  obtain ⟨backups, listed, once, -, all⟩ := Backup.exists_list sound named text opened
  have counts : ∀ b, b ∈ backups ↔ Stands f base above (lead b.path) b.timestamp ∧
      b.path = (dir live).join (lead b.path) := by
    intro b
    rw [all, Backup.shown_iff text]
    constructor
    · rintro ⟨name, stands, path⟩
      have leads : lead b.path = name := path ▸ lead_join named opened stands
      rw [leads]
      exact ⟨stands, path⟩
    · exact fun both => ⟨_, both⟩
  refine ⟨backups, listed, ?_, counts⟩
  refine once.imp_of_mem fun {b b'} member member' differ same => differ ?_
  obtain ⟨stands, path⟩ := (counts b).1 member
  obtain ⟨stands', path'⟩ := (counts b').1 member'
  rw [← same] at stands' path'
  have stamps := Option.some.inj (stands.dated.symm.trans stands'.dated)
  cases b
  cases b'
  simp only [Listed.mk.injEq]
  exact ⟨path.trans path'.symm, stamps⟩

theorem exists_start (retention : Duration) (clock : now.nanos < Duration.limit) :
    ∃ s, start f live retention now = .ok s ∧ s.deleted = 0 ∧ s.failed = 0 ∧ Fit f above s.pending ∧
      (∃ names : List Bytes, names.Nodup ∧
        (∀ name, name ∈ names ↔ ∃ t, Stands f base above name t) ∧ s.scanned = names.length) ∧
      (s.pending.map (·.path)).Nodup ∧ ∀ p, p ∈ s.pending.map (·.path) ↔
        ∃ name, Due f base above retention now name ∧ p = (dir live).join name := by
  obtain ⟨backups, listed, apart, all⟩ := exists_standing sound named text opened
  have joined : ∀ {name t}, Stands f base above name t → (⟨(dir live).join name, t⟩ : Listed) ∈ backups := by
    intro name t stands
    rw [all, lead_join named opened stands]
    exact ⟨stands, rfl⟩
  have kept : (backups.filter (Backup.isExpired retention now)).Sublist backups := List.filter_sublist
  refine ⟨ofList retention now backups, by rw [start, listed]; rfl, rfl, rfl, ⟨?_, ?_, ?_⟩,
    ⟨backups.map fun b => lead b.path, List.pairwise_map.2 apart, ?_, by rw [List.length_map]; rfl⟩, ?_, ?_⟩
  · intro b member
    obtain ⟨⟨-, -, n, content, file, -⟩, -⟩ := (all b).1 (kept.mem member)
    exact ⟨n, file⟩
  · intro b member found leads
    obtain ⟨stands, path⟩ := (all b).1 (kept.mem member)
    rw [path] at leads
    have piece := Backup.ofPiece_of_timestamp? stands.dated
    rw [Backup.find_join opened (slash_not_mem_of_stands named stands) piece leads]
    rfl
  · exact (apart.sublist kept).imp fun differ same => differ (List.cons.inj same).1
  · intro name
    rw [List.mem_map]
    constructor
    · rintro ⟨b, member, rfl⟩
      exact ⟨_, ((all b).1 member).1⟩
    · rintro ⟨t, stands⟩
      exact ⟨_, joined stands, lead_join named opened stands⟩
  · exact List.pairwise_map.2 ((apart.sublist kept).imp fun differ same => differ (by rw [same]))
  · intro p
    simp only [List.mem_map, ofList, List.mem_filter, Backup.isExpired_iff clock]
    constructor
    · rintro ⟨b, ⟨member, old⟩, rfl⟩
      obtain ⟨stands, path⟩ := (all b).1 member
      exact ⟨_, ⟨_, stands, old⟩, path⟩
    · rintro ⟨name, ⟨t, stands, old⟩, rfl⟩
      exact ⟨_, ⟨joined stands, old⟩, rfl⟩

theorem exact_conducted (retention : Duration) (clock : now.nanos < Duration.limit)
    (spoils : Path → Option Files.Fault) :
    ∃ s, start f live retention now = .ok s ∧
      Exact f live base above retention now spoils (s.conducted spoils f) := by
  obtain ⟨s, started, fresh, fresh', fit, scanned, once, due⟩ :=
    exists_start sound named text opened retention clock
  obtain ⟨tried, counted⟩ := removals_counts spoils (f := f) (s := s) rfl
  obtain ⟨files, answers⟩ := removals_files spoils s.pending.length fit
  have paths : (s.conducted spoils f).tried.map (·.1.path) = s.pending.map (·.path) := by
    rw [← tried, List.map_map]
    rfl
  refine ⟨s, started, ?_, ?_, ?_, answers, ?_, ?_, ?_, _, files, ?_⟩
  · rw [conducted, counted]
    exact scanned
  · rw [paths]
    exact once
  · rw [paths]
    exact due
  · rw [conducted, counted]
  · rw [conducted, counted, fresh, Nat.zero_add]
  · rw [conducted, counted, fresh', Nat.zero_add]
  · intro place
    have ends : ∀ {name}, Due f base above retention now name → lead ((dir live).join name) = name := by
      rintro name ⟨t, stands, -⟩
      exact lead_join named opened stands
    have known : ∀ p, p ∈ (removals spoils s.pending.length f s).tried.map (·.1.path) ↔
        ∃ name, Due f base above retention now name ∧ p = (dir live).join name :=
      fun p => (congrArg (p ∈ ·) paths).to_iff.trans (due p)
    simp only [vacated, List.mem_map, List.mem_filter]
    constructor
    · rintro ⟨⟨b, answer⟩, ⟨member, succeeds⟩, rfl⟩
      obtain ⟨name, isDue, path⟩ := (known b.path).1 (List.mem_map.2 ⟨_, member, rfl⟩)
      obtain ⟨fair, reaches⟩ := (answers b answer member).1 succeeds
      rw [path] at fair reaches
      exact ⟨name, by rw [spot, path, ends isDue], isDue, fair, reaches⟩
    · rintro ⟨name, rfl, isDue, fair, reaches⟩
      obtain ⟨⟨b, answer⟩, member, path⟩ := List.mem_map.1 ((known _).2 ⟨name, isDue, rfl⟩)
      rw [← path] at fair reaches
      refine ⟨(b, answer), ⟨member, (answers b answer member).2 ⟨fair, reaches⟩⟩, ?_⟩
      rw [spot, path, ends isDue]

end Exact

theorem due_without {gone : List Place} {name : Bytes} (filed : f.Filed gone) :
    Due (f.without gone) base above retention now name ↔
      Due f base above retention now name ∧ name :: above ∉ gone := by
  have there : ∀ n, (f.without gone).node? (name :: above) = some (.file n) ↔
      f.node? (name :: above) = some (.file n) ∧ name :: above ∉ gone := by
    intro n
    rw [Files.node?_without filed.below]
    by_cases taken : name :: above ∈ gone <;> simp [taken]
  constructor
  · rintro ⟨t, ⟨dated, low, n, content, file, held⟩, old⟩
    exact ⟨⟨t, ⟨dated, low, n, content, ((there n).1 file).1, held⟩, old⟩, ((there n).1 file).2⟩
  · rintro ⟨⟨t, ⟨dated, low, n, content, file, held⟩, old⟩, stays⟩
    exact ⟨t, ⟨dated, low, n, content, (there n).2 ⟨file, stays⟩, held⟩, old⟩

theorem Due.later {later : Moment} {name : Bytes} (isDue : Due f base above retention now name)
    (after : now.nanos ≤ later.nanos) : Due f base above retention later name := by
  obtain ⟨t, stands, old⟩ := isDue
  exact ⟨t, stands, old.later after⟩

/-- The sweep of the model is the one that nothing spoils. -/
theorem run_eq (started : start f live retention now = .ok s) :
    ∃ notes, run f live retention now = (.ok (s.conducted (fun _ => none) f).sweep.summary,
      (s.conducted (fun _ => none) f).files, notes) := by
  refine ⟨(s.finish f).2.2, ?_⟩
  simp only [run, started, ← finish_eq.1, ← finish_eq.2]

theorem Exact.gone {c : Removals} (exactly : Exact f live base above retention now spoils c) :
    ∃ gone, c.files = f.without gone ∧ f.Filed gone ∧ ∀ place, place ∈ gone ↔
      ∃ name, place = name :: above ∧ Due f base above retention now name ∧
        spoils ((dir live).join name) = none ∧ Reaches f ((dir live).join name) := by
  obtain ⟨gone, files, all⟩ := exactly.files
  refine ⟨gone, files, fun place member => ?_, all⟩
  obtain ⟨name, rfl, ⟨t, ⟨-, -, n, content, file, -⟩, -⟩, -⟩ := (all place).1 member
  exact ⟨n, file⟩

section Twice

variable (sound : f.Sound) (named : live.fileName? = some base) (text : Utf8.Legible base)
  (opened : f.find true (dir live) = .ok ⟨above, some .directory⟩) {c : Removals} {later : Moment}
  (spoils' : Path → Option Files.Fault)
include sound named text opened

theorem Exact.again (exactly : Exact f live base above retention now spoils c)
    (clock : later.nanos < Duration.limit) :
    ∃ s gone more, start c.files live retention later = .ok s ∧
      Exact c.files live base above retention later spoils' (s.conducted spoils' c.files) ∧
      c.files = f.without gone ∧ (s.conducted spoils' c.files).files = f.without (gone ++ more) ∧
      (∀ place, place ∈ gone ↔ ∃ name, place = name :: above ∧ Due f base above retention now name ∧
        spoils ((dir live).join name) = none ∧ Reaches f ((dir live).join name)) ∧
      (∀ name, Due c.files base above retention later name ↔
        Due f base above retention later name ∧ name :: above ∉ gone) ∧
      (∀ p, Reaches c.files p ↔ Reaches f p) ∧
      ∀ place, place ∈ more ↔ ∃ name, place = name :: above ∧
        (Due f base above retention later name ∧ name :: above ∉ gone) ∧
        spoils' ((dir live).join name) = none ∧ Reaches f ((dir live).join name) := by
  obtain ⟨gone, files, filed, all⟩ := exactly.gone
  have ways : f.SameWays c.files := files ▸ .without filed
  have reach : ∀ p, Reaches c.files p ↔ Reaches f p := fun p => ⟨.same ways.symm, .same ways⟩
  have due : ∀ name, Due c.files base above retention later name ↔
      Due f base above retention later name ∧ name :: above ∉ gone := fun name => files ▸ due_without filed
  obtain ⟨s, started, exactly'⟩ := exact_conducted (files ▸ sound.without filed) named
    text (ways.opens opened) retention clock spoils'
  obtain ⟨more, files', all'⟩ := exactly'.files
  refine ⟨s, gone, more, started, exactly', files, ?_, all, due, reach, fun place => ?_⟩
  · rw [files', ← Files.without_without, ← files]
  · simp only [all', due, reach]

theorem Exact.idle_again (exactly : Exact f live base above retention now (fun _ => none) c)
    (clock : now.nanos < Duration.limit) :
    ∃ s, start c.files live retention now = .ok s ∧ (s.conducted spoils' c.files).sweep.deleted = 0 ∧
      (s.conducted spoils' c.files).files = c.files := by
  obtain ⟨s, gone, more, started, exactly', files, files', taken, due, reach, all⟩ :=
    exactly.again sound named text opened spoils' clock
  have idle : ∀ name, Due f base above retention now name ∧ name :: above ∉ gone →
      ¬ Reaches f ((dir live).join name) := fun name left reaches =>
    left.2 ((taken _).2 ⟨name, rfl, left.1, rfl, reaches⟩)
  have nothing : more = [] := by
    apply List.eq_nil_iff_forall_not_mem.2
    intro place member
    obtain ⟨name, -, left, -, reaches⟩ := (all place).1 member
    exact idle name left reaches
  refine ⟨s, started, ?_, ?_⟩
  · rw [exactly'.deleted, List.countP_eq_zero]
    rintro ⟨b, answer⟩ member succeeds
    obtain ⟨name, isDue, path⟩ := (exactly'.tried b.path).1 (List.mem_map.2 ⟨_, member, rfl⟩)
    have reaches := ((exactly'.answers b answer member).1 succeeds).2
    rw [reach, path] at reaches
    exact idle name ((due name).1 isDue) reaches
  · rw [files', nothing, List.append_nil, files]

theorem Exact.run_later (exactly : Exact f live base above retention now spoils c)
    (after : now.nanos ≤ later.nanos) (clock : later.nanos < Duration.limit) :
    (run c.files live retention later).2.1 = (run f live retention later).2.1 := by
  obtain ⟨s, gone, more, started, -, -, files, taken, -, -, all⟩ :=
    exactly.again sound named text opened (fun _ => none) clock
  obtain ⟨alone, startedAlone, exactlyAlone⟩ :=
    exact_conducted sound named text opened retention clock fun _ => none
  obtain ⟨whole, filesAlone, allAlone⟩ := exactlyAlone.files
  obtain ⟨_, ran⟩ := run_eq started
  obtain ⟨_, ranAlone⟩ := run_eq startedAlone
  rw [ran, ranAlone, files, filesAlone]
  apply Files.without_congr
  intro place
  rw [List.mem_append, allAlone, all]
  constructor
  · rintro (member | ⟨name, rfl, ⟨isDue, -⟩, fair, reaches⟩)
    · obtain ⟨name, rfl, isDue, -, reaches⟩ := (taken place).1 member
      exact ⟨name, rfl, isDue.later after, rfl, reaches⟩
    · exact ⟨name, rfl, isDue, fair, reaches⟩
  · rintro ⟨name, rfl, isDue, fair, reaches⟩
    by_cases member : name :: above ∈ gone
    · exact .inl member
    · exact .inr ⟨name, rfl, ⟨isDue, member⟩, fair, reaches⟩

end Twice

/-- A sweep tries to remove exactly the regular files with the name of a backup that are older than the
retention, once each and regardless of failures, and changes nothing else. A second sweep at the same moment
finds nothing to remove, and a later one leaves the same entries as it would have without the first. -/
theorem takes_what_is_due (sound : f.Sound) (named : live.fileName? = some base)
    (text : Utf8.Legible base) (opened : f.find true (dir live) = .ok ⟨above, some .directory⟩)
    (clock : now.nanos < Duration.limit) :
    ∃ s, start f live retention now = .ok s ∧
    (∀ spoils, Exact f live base above retention now spoils (s.conducted spoils f)) ∧
    (∃ notes, run f live retention now = (.ok (s.conducted (fun _ => none) f).sweep.summary,
      (s.conducted (fun _ => none) f).files, notes)) ∧
    (∀ spoils, ∃ s', start (run f live retention now).2.1 live retention now = .ok s' ∧
      (s'.conducted spoils (run f live retention now).2.1).sweep.deleted = 0 ∧
      (s'.conducted spoils (run f live retention now).2.1).files = (run f live retention now).2.1) ∧
    ∀ (spoils : Path → Option Files.Fault) (later : Moment), now.nanos ≤ later.nanos →
      later.nanos < Duration.limit → (run (s.conducted spoils f).files live retention later).2.1 =
        (run f live retention later).2.1 := by
  obtain ⟨s, started, -⟩ := exact_conducted sound named text opened retention clock fun _ => none
  have exactly : ∀ spoils, Exact f live base above retention now spoils (s.conducted spoils f) := by
    intro spoils
    obtain ⟨s', started', exactly⟩ := exact_conducted sound named text opened retention clock spoils
    obtain rfl := Except.ok.inj (started.symm.trans started')
    exact exactly
  obtain ⟨notes, ran⟩ := run_eq started
  refine ⟨s, started, exactly, ⟨notes, ran⟩, fun spoils => ?_, fun spoils later after clock' => ?_⟩
  · rw [ran]
    exact (exactly fun _ => none).idle_again sound named text opened spoils clock
  · exact (exactly spoils).run_later sound named text opened after clock'

theorem takes_what_is_due_stubborn :
    let live : Path := ⟨[0x61]⟩
    let f := Files.single [0x61, 0x2E, 0x30, 0x35] [0x78]
    let now : Moment := .ofSeconds 5 1
    let spoils : Path → Option Files.Fault := fun _ => some { cause := .ofKind .inputOutput }
    ∃ s, start f live .zero now = .ok s ∧ (s.conducted spoils f).sweep.summary = ⟨1, 0, 1⟩ ∧
      (s.conducted spoils f).files = f ∧
      (run (s.conducted spoils f).files live .zero now).2.1 = (run f live .zero now).2.1 ∧
      (run f live .zero now).2.1.nodes = [] := by
  intro live f now spoils
  have text : Utf8.Legible [0x61] := Utf8.legible_of_small (by decide +kernel)
  have opened : f.find true (dir live) = .ok ⟨[], some .directory⟩ := by decide +kernel
  obtain ⟨s, started, -, -, -, after⟩ : ∃ s, start f live .zero now = .ok s ∧ _ :=
    takes_what_is_due (Files.sound_single [0x61, 0x2E, 0x30, 0x35] [0x78]) (by decide +kernel) text
      opened (by decide)
  have begun : (start f live .zero now).toOption =
      some { pending := [⟨⟨[0x2E, 0x2F, 0x61, 0x2E, 0x30, 0x35]⟩, 5⟩], scanned := 1 } := by
    decide +kernel
  rw [started] at begun
  obtain rfl := Option.some.inj begun
  exact ⟨_, started, by decide +kernel, by decide +kernel, after spoils now (Int.le_refl _) (by decide),
    by decide +kernel⟩

end Sweep
end AuditTrail
