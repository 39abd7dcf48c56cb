import AuditTrail.Proofs.Files.Basic

/-! Where a path leads depends on directories and links alone. `SameWays` says that two states of
the files agree on these. -/
namespace AuditTrail.Files

variable {f g h : Files} {place : Place} {number : Nat} {p : Path} {through : Bool} {found : Found}

/-- What a place is to a path that passes through it. A file and a free place are both dead ends. -/
def way : Option Node → Option Node
  | some (.file _) => none
  | node => node

structure SameWays (f g : Files) : Prop where
  here : g.here = f.here
  ways : ∀ place, way (g.node? place) = way (f.node? place)

theorem SameWays.refl (f : Files) : SameWays f f := ⟨rfl, fun _ => rfl⟩

theorem SameWays.symm (same : SameWays f g) : SameWays g f :=
  ⟨same.here.symm, fun place => (same.ways place).symm⟩

theorem SameWays.addFile (free : f.node? place = none) (content : Bytes) :
    SameWays f (f.addFile place content) := by
  refine ⟨rfl, fun other => ?_⟩
  rw [node?_addFile free]
  split
  · next same => rw [same, free]; rfl
  · rfl

theorem SameWays.erase (file : f.node? place = some (.file number)) :
    SameWays f (f.erase place) := by
  refine ⟨rfl, fun other => ?_⟩
  rw [node?_erase (ne_root_of_file file)]
  split
  · next same => rw [same, file]; rfl
  · rfl

theorem SameWays.revise (change : Bytes → Bytes) : SameWays f (f.revise number change) :=
  ⟨rfl, fun other => by rw [node?_revise]⟩

theorem SameWays.directory (same : SameWays f g) (dir : f.node? place = some .directory) :
    g.node? place = some .directory := by
  have ways := same.ways place
  rw [dir] at ways
  cases there : g.node? place with
  | none => simp [there, way] at ways
  | some node => cases node <;> simp_all [way]

theorem SameWays.link (same : SameWays f g) {target : Path}
    (link : f.node? place = some (.link target)) : g.node? place = some (.link target) := by
  have ways := same.ways place
  rw [link] at ways
  cases there : g.node? place with
  | none => simp [there, way] at ways
  | some node => cases node <;> simp_all [way]

theorem SameWays.not_way (same : SameWays f g) (free : way (f.node? place) = none) :
    g.node? place = none ∨ ∃ number, g.node? place = some (.file number) := by
  have ways := same.ways place
  rw [free] at ways
  cases there : g.node? place with
  | none => exact .inl rfl
  | some node => cases node <;> simp_all [way]

/-- Following `steps` from a place leads to `found`, through at most `links` links. -/
inductive Leads (f : Files) (through : Bool) : Nat → Place → List Step → Found → Prop where
  | here {links : Nat} {place : Place} : Leads f through links place [] ⟨place, f.node? place⟩
  | stay {links : Nat} {place : Place} {rest : List Step} {found : Found}
      (dir : f.node? place = some .directory) (onward : Leads f through links place rest found) :
      Leads f through links place (.stay :: rest) found
  | up {links : Nat} {place : Place} {rest : List Step} {found : Found}
      (dir : f.node? place = some .directory) (onward : Leads f through links place.tail rest found) :
      Leads f through links place (.up :: rest) found
  | leaf {links : Nat} {place : Place} {name : Bytes} (dir : f.node? place = some .directory)
      (short : name.length ≤ longestName) (leaf : way (f.node? (name :: place)) = none) :
      Leads f through links place [.name name] ⟨name :: place, f.node? (name :: place)⟩
  | enter {links : Nat} {place : Place} {name : Bytes} {rest : List Step} {found : Found}
      (dir : f.node? place = some .directory) (short : name.length ≤ longestName)
      (below : f.node? (name :: place) = some .directory)
      (onward : Leads f through links (name :: place) rest found) :
      Leads f through links place (.name name :: rest) found
  | stop {links : Nat} {place : Place} {name : Bytes} {target : Path}
      (dir : f.node? place = some .directory) (short : name.length ≤ longestName)
      (link : f.node? (name :: place) = some (.link target)) (wanted : through = false) :
      Leads f through links place [.name name] ⟨name :: place, some (.link target)⟩
  | follow {links : Nat} {place : Place} {name : Bytes} {rest : List Step} {target : Path}
      {found : Found} (dir : f.node? place = some .directory) (short : name.length ≤ longestName)
      (link : f.node? (name :: place) = some (.link target)) (wanted : rest ≠ [] ∨ through = true)
      (onward : Leads f through links (start target place) (steps target ++ rest) found) :
      Leads f through (links + 1) place (.name name :: rest) found

def beyond (f : Files) (through : Bool) : Nat → Place → List Step → Except IoError Found
  | 0 => fun _ _ => .error (.ofKind .filesystemLoop)
  | links + 1 => f.walk through links

theorem walk_eq (links : Nat) : f.walk through links = f.pass through (f.beyond through links) := by
  cases links <;> rfl

section Pass

variable {relay : Place → List Step → Except IoError Found} {links : Nat} {steps : List Step}

theorem pass_off {step : Step} {rest : List Step} (off : f.node? place ≠ some .directory) :
    pass f through relay place (step :: rest) = .error (.ofKind .notADirectory) := by
  cases step <;> rw [pass, if_pos off]

theorem pass_stay {rest : List Step} (dir : f.node? place = some .directory) :
    pass f through relay place (.stay :: rest) = pass f through relay place rest := by
  rw [pass, if_neg (not_not.2 dir)]

theorem pass_up {rest : List Step} (dir : f.node? place = some .directory) :
    pass f through relay place (.up :: rest) = pass f through relay place.tail rest := by
  rw [pass, if_neg (not_not.2 dir)]

theorem pass_long {name : Bytes} {rest : List Step} (dir : f.node? place = some .directory)
    (long : longestName < name.length) :
    pass f through relay place (.name name :: rest) = .error (.ofKind .invalidFilename) := by
  rw [pass, if_neg (not_not.2 dir)]
  simp only [if_pos long]

theorem pass_name {name : Bytes} {rest : List Step} (dir : f.node? place = some .directory)
    (short : name.length ≤ longestName) :
    pass f through relay place (.name name :: rest) = match f.node? (name :: place) with
      | none => if rest.isEmpty then .ok ⟨name :: place, none⟩ else .error (.ofKind .notFound)
      | some (.link target) =>
        if rest.isEmpty && !through then .ok ⟨name :: place, some (.link target)⟩
        else relay (start target place) (Files.steps target ++ rest)
      | some _ => pass f through relay (name :: place) rest := by
  rw [pass, if_neg (not_not.2 dir)]
  cases f.node? (name :: place) with
  | none => exact if_neg (Nat.not_lt.2 short)
  | some node => cases node <;> exact if_neg (Nat.not_lt.2 short)

theorem leads_of_pass (relays : ∀ place steps found, relay place steps = .ok found →
      ∃ fewer, links = fewer + 1 ∧ Leads f through fewer place steps found)
    (passed : f.pass through relay place steps = .ok found) :
    Leads f through links place steps found := by
  induction steps generalizing place with
  | nil =>
    obtain rfl : ⟨place, f.node? place⟩ = found := Except.ok.inj passed
    exact .here
  | cons step rest ih =>
    by_cases off : f.node? place ≠ some .directory
    · rw [pass_off off] at passed
      cases passed
    have dir := not_not.1 off
    cases step with
    | stay => exact .stay dir (ih (pass_stay dir ▸ passed))
    | up => exact .up dir (ih (pass_up dir ▸ passed))
    | name name =>
      by_cases long : longestName < name.length
      · rw [pass_long dir long] at passed
        cases passed
      have short := Nat.not_lt.1 long
      rw [pass_name dir short] at passed
      cases there : f.node? (name :: place) with
      | none =>
        simp only [there] at passed
        cases rest with
        | cons step rest => cases passed
        | nil =>
          obtain rfl := Except.ok.inj passed
          rw [← there]
          exact .leaf dir short (by rw [there]; rfl)
      | some node =>
        simp only [there] at passed
        cases node with
        | directory => exact .enter dir short there (ih passed)
        | file n =>
          cases rest with
          | cons step rest =>
            rw [pass_off (by rw [there]; simp)] at passed
            cases passed
          | nil =>
            obtain rfl : ⟨name :: place, f.node? (name :: place)⟩ = found := Except.ok.inj passed
            exact .leaf dir short (by rw [there]; rfl)
        | link target =>
          dsimp only at passed
          by_cases stops : rest = [] ∧ through = false
          · obtain ⟨rfl, rfl⟩ := stops
            obtain rfl : ⟨name :: place, some (.link target)⟩ = found := Except.ok.inj passed
            exact .stop dir short there rfl
          · rw [if_neg (by simpa using stops)] at passed
            obtain ⟨fewer, rfl, onward⟩ := relays _ _ _ passed
            refine .follow dir short there ?_ onward
            cases through
            · exact .inl fun empty => stops ⟨empty, rfl⟩
            · exact .inr rfl

theorem pass_error {cause : IoError}
    (relays : ∀ place steps cause, relay place steps = .error cause → cause.kind ≠ .alreadyExists)
    (fails : f.pass through relay place steps = .error cause) : cause.kind ≠ .alreadyExists := by
  induction steps generalizing place with
  | nil => cases fails
  | cons step rest ih =>
    by_cases off : f.node? place ≠ some .directory
    · rw [pass_off off] at fails
      cases fails
      nofun
    have dir := not_not.1 off
    cases step with
    | stay => exact ih (pass_stay dir ▸ fails)
    | up => exact ih (pass_up dir ▸ fails)
    | name name =>
      by_cases long : longestName < name.length
      · rw [pass_long dir long] at fails
        cases fails
        nofun
      rw [pass_name dir (Nat.not_lt.1 long)] at fails
      split at fails
      · split at fails
        · cases fails
        · cases fails
          nofun
      · split at fails
        · cases fails
        · exact relays _ _ _ fails
      · exact ih fails

theorem leads_of_walk (walked : f.walk through links place steps = .ok found) :
    Leads f through links place steps found := by
  induction links generalizing place steps found with
  | zero =>
    refine leads_of_pass ?_ walked
    intro _ _ _ loop
    cases loop
  | succ links ih => exact leads_of_pass (fun _ _ _ relayed => ⟨links, rfl, ih relayed⟩) walked

theorem Leads.walk (leads : Leads f through links place steps found) :
    f.walk through links place steps = .ok found := by
  induction leads with
  | here => rw [walk_eq, pass]
  | stay dir _ ih => rw [walk_eq, pass_stay dir, ← walk_eq, ih]
  | up dir _ ih => rw [walk_eq, pass_up dir, ← walk_eq, ih]
  | @leaf links place name dir short leaf =>
    rw [walk_eq, pass_name dir short]
    cases there : f.node? (name :: place) with
    | none => rfl
    | some node => cases node <;> simp_all [way, pass]
  | enter dir short below _ ih =>
    rw [walk_eq, pass_name dir short]
    simp only [below]
    rw [← walk_eq, ih]
  | stop dir short link wanted =>
    rw [walk_eq, pass_name dir short]
    simp [link, wanted]
  | @follow links place name rest target found dir short link wanted _ ih =>
    rw [walk_eq, pass_name dir short]
    simp only [link]
    rw [if_neg]
    · exact ih
    · rcases wanted with more | wanted
      · simp [more]
      · simp [wanted]

end Pass

section Leads

variable {links : Nat} {steps before : List Step} {name : Bytes}

theorem Leads.node? (leads : Leads f through links place steps found) :
    found.node? = f.node? found.place := by
  induction leads with
  | here | leaf => rfl
  | stay _ _ ih | up _ _ ih | enter _ _ _ _ ih | follow _ _ _ _ _ ih => exact ih
  | stop _ _ link _ => exact link.symm

/-- Steps lead to the same place in both states. -/
theorem SameWays.leads (same : SameWays f g) (leads : Leads f through links place steps found) :
    Leads g through links place steps ⟨found.place, g.node? found.place⟩ := by
  induction leads with
  | here => exact .here
  | stay dir _ ih => exact .stay (same.directory dir) ih
  | up dir _ ih => exact .up (same.directory dir) ih
  | leaf dir short leaf => exact .leaf (same.directory dir) short ((same.ways _).trans leaf)
  | enter dir short below _ ih =>
    exact .enter (same.directory dir) short (same.directory below) ih
  | stop dir short link wanted =>
    rw [same.link link]
    exact .stop (same.directory dir) short (same.link link) wanted
  | follow dir short link wanted _ ih =>
    exact .follow (same.directory dir) short (same.link link) wanted ih

theorem Leads.of_unlinked (leads : Leads f false links place steps found)
    (unlinked : ∀ target, found.node? ≠ some (.link target)) :
    Leads f true links place steps found := by
  induction leads with
  | here => exact .here
  | stay dir _ ih => exact .stay dir (ih unlinked)
  | up dir _ ih => exact .up dir (ih unlinked)
  | leaf dir short leaf => exact .leaf dir short leaf
  | enter dir short below _ ih => exact .enter dir short below (ih unlinked)
  | stop => exact absurd rfl (unlinked _)
  | follow dir short link _ _ ih => exact .follow dir short link (.inr rfl) (ih unlinked)

theorem Leads.dir (more : steps ≠ []) (leads : Leads f through links place steps found) :
    f.node? place = some .directory := by
  cases leads with
  | here => exact absurd rfl more
  | stay dir | up dir | leaf dir | enter dir | stop dir | follow dir => exact dir

/-- The first steps lead to a directory, and the others go on from there. -/
theorem Leads.split (more : steps ≠ [])
    (leads : Leads f through links place (before ++ steps) found) :
    ∃ middle fewer, Leads f true links place before ⟨middle, some .directory⟩ ∧
      Leads f through fewer middle steps found := by
  have here : ∀ {links place found all}, [] ++ steps = all → Leads f through links place all found →
      ∃ middle fewer, Leads f true links place [] ⟨middle, some .directory⟩ ∧
        Leads f through fewer middle steps found := by
    rintro links place found _ rfl onward
    have dir := onward.dir more
    exact ⟨place, links, dir ▸ .here, onward⟩
  generalize whole : before ++ steps = all at leads
  induction leads generalizing before with
  | here => exact absurd (List.append_eq_nil_iff.1 whole).2 more
  | stay dir onward ih =>
    cases before with
    | nil => exact here whole (.stay dir onward)
    | cons first before =>
      obtain ⟨rfl, rest⟩ := List.cons.inj whole
      obtain ⟨middle, fewer, front, back⟩ := ih rest
      exact ⟨middle, fewer, .stay dir front, back⟩
  | up dir onward ih =>
    cases before with
    | nil => exact here whole (.up dir onward)
    | cons first before =>
      obtain ⟨rfl, rest⟩ := List.cons.inj whole
      obtain ⟨middle, fewer, front, back⟩ := ih rest
      exact ⟨middle, fewer, .up dir front, back⟩
  | leaf dir short leaf =>
    cases before with
    | nil => exact here whole (.leaf dir short leaf)
    | cons first before => exact absurd (List.append_eq_nil_iff.1 (List.cons.inj whole).2).2 more
  | enter dir short below onward ih =>
    cases before with
    | nil => exact here whole (.enter dir short below onward)
    | cons first before =>
      obtain ⟨rfl, rest⟩ := List.cons.inj whole
      obtain ⟨middle, fewer, front, back⟩ := ih rest
      exact ⟨middle, fewer, .enter dir short below front, back⟩
  | stop dir short link wanted =>
    cases before with
    | nil => exact here whole (.stop dir short link wanted)
    | cons first before => exact absurd (List.append_eq_nil_iff.1 (List.cons.inj whole).2).2 more
  | follow dir short link wanted onward ih =>
    cases before with
    | nil => exact here whole (.follow dir short link wanted onward)
    | cons first before =>
      obtain ⟨rfl, rest⟩ := List.cons.inj whole
      rw [← rest] at ih
      obtain ⟨middle, fewer, front, back⟩ := ih (List.append_assoc ..)
      exact ⟨middle, fewer, .follow dir short link (.inr rfl) front, back⟩

/-- Steps that end in a name, without following a final link, lead to a place of that name. -/
theorem Leads.last (leads : Leads f false links place (before ++ [.name name]) found) :
    found.place.head? = some name ∧ name.length ≤ longestName := by
  obtain ⟨middle, fewer, -, onward⟩ := leads.split (List.cons_ne_nil _ _)
  cases onward with
  | leaf _ short | stop _ short => exact ⟨rfl, short⟩
  | enter _ short _ arrived =>
    cases arrived
    exact ⟨rfl, short⟩
  | follow _ _ _ wanted => simp at wanted

theorem Leads.dotted {step : Step} (dotted : ∀ name, step ≠ .name name)
    (rooted : ∀ place : Place, f.node? place = some .directory →
      f.node? place.tail = some .directory)
    (leads : Leads f through links place (before ++ [step]) found) :
    found.node? = some .directory := by
  obtain ⟨middle, fewer, -, onward⟩ := leads.split (List.cons_ne_nil _ _)
  cases onward with
  | stay dir arrived =>
    cases arrived
    exact dir
  | up dir arrived =>
    cases arrived
    exact rooted _ dir
  | leaf | enter | stop | follow => exact absurd rfl (dotted _)

/-- The result is the same without following a final link, unless there is one. -/
theorem Leads.stopping (leads : Leads f true links place steps found) :
    Leads f false links place steps found ∨
      ∃ other target, Leads f false links place steps ⟨other, some (.link target)⟩ := by
  induction leads with
  | here => exact .inl .here
  | stay dir _ ih =>
    rcases ih with same | ⟨other, target, stops⟩
    · exact .inl (.stay dir same)
    · exact .inr ⟨other, target, .stay dir stops⟩
  | up dir _ ih =>
    rcases ih with same | ⟨other, target, stops⟩
    · exact .inl (.up dir same)
    · exact .inr ⟨other, target, .up dir stops⟩
  | leaf dir short leaf => exact .inl (.leaf dir short leaf)
  | enter dir short below _ ih =>
    rcases ih with same | ⟨other, target, stops⟩
    · exact .inl (.enter dir short below same)
    · exact .inr ⟨other, target, .enter dir short below stops⟩
  | stop _ _ _ wanted => cases wanted
  | @follow links place name rest target found dir short link wanted _ ih =>
    by_cases more : rest = []
    · subst more
      exact .inr ⟨_, target, .stop dir short link rfl⟩
    · rcases ih with same | ⟨other, onward, stops⟩
      · exact .inl (.follow dir short link (.inl more) same)
      · exact .inr ⟨other, onward, .follow dir short link (.inl more) stops⟩

theorem Step.eq_of_ofPiece {piece : Bytes} (same : ofPiece piece = .name name) : piece = name := by
  unfold ofPiece at same
  split at same
  · cases same
  · split at same
    · cases same
    · exact Step.name.inj same

theorem Leads.of_stay (leads : Leads f through links place (before ++ [.stay]) found) :
    Leads f true links place before found := by
  obtain ⟨middle, fewer, front, onward⟩ := leads.split (List.cons_ne_nil _ _)
  cases onward with
  | stay dir arrived =>
    cases arrived
    rw [dir]
    exact front

theorem leads_name (dir : f.node? place = some .directory) (short : name.length ≤ longestName) :
    Leads f false links place [.name name] ⟨name :: place, f.node? (name :: place)⟩ := by
  cases there : f.node? (name :: place) with
  | none => exact there ▸ .leaf dir short (by rw [there]; rfl)
  | some node =>
    cases node with
    | file n => exact there ▸ .leaf dir short (by rw [there]; rfl)
    | directory => exact there ▸ .enter dir short there .here
    | link target => exact .stop dir short there rfl

theorem Leads.enter_last (leads : Leads f true links place steps ⟨other, some .directory⟩)
    (short : name.length ≤ longestName) :
    Leads f false links place (steps ++ [.name name]) ⟨name :: other, f.node? (name :: other)⟩ := by
  generalize goal : (⟨other, some .directory⟩ : Found) = found at leads
  induction leads with
  | here =>
    obtain ⟨rfl, dir⟩ := Found.mk.inj goal
    exact leads_name dir.symm short
  | stay dir _ ih => exact .stay dir (ih goal)
  | up dir _ ih => exact .up dir (ih goal)
  | leaf _ _ leaf =>
    rw [← (Found.mk.inj goal).2] at leaf
    cases leaf
  | enter dir fits below _ ih => exact .enter dir fits below (ih goal)
  | stop _ _ _ wanted => cases wanted
  | follow dir fits link _ _ ih =>
    have onward := ih goal
    rw [List.append_assoc] at onward
    exact .follow dir fits link (.inl (by simp)) onward

end Leads

/-- A path leads somewhere if it is well-formed and its steps lead there. -/
theorem find_eq_ok : f.find through p = .ok found ↔
    p.bytes.contains 0 = false ∧ p.bytes ≠ [] ∧ p.bytes.length ≤ longestPath ∧
      Leads f through mostLinks (start p f.here) (steps p) found := by
  unfold find
  constructor
  · intro leads
    split at leads
    · cases leads
    next clean =>
    split at leads
    · cases leads
    next present =>
    split at leads
    · cases leads
    next fits =>
    exact ⟨by simpa using clean, by simpa using present, by omega, leads_of_walk leads⟩
  · rintro ⟨clean, present, fits, leads⟩
    rw [if_neg (by simpa using clean), if_neg (by simpa using present), if_neg (by omega)]
    exact leads.walk

theorem node?_of_find (leads : f.find through p = .ok found) :
    found.node? = f.node? found.place :=
  (find_eq_ok.1 leads).2.2.2.node?

theorem SameWays.find (same : SameWays f g) (leads : f.find through p = .ok found) :
    g.find through p = .ok ⟨found.place, g.node? found.place⟩ := by
  obtain ⟨clean, present, fits, steps⟩ := find_eq_ok.1 leads
  refine find_eq_ok.2 ⟨clean, present, fits, ?_⟩
  rw [same.here]
  exact same.leads steps

/-- A path still leads to an entry that stays at its place. -/
theorem SameWays.find_stays (same : SameWays f g) (leads : f.find through p = .ok found)
    (stays : g.node? found.place = f.node? found.place) : g.find through p = .ok found := by
  rw [same.find leads, stays, ← node?_of_find leads]

theorem SameWays.opens (same : SameWays f g) {place : Place}
    (opened : f.find through p = .ok ⟨place, some .directory⟩) :
    g.find through p = .ok ⟨place, some .directory⟩ :=
  same.find_stays opened ((same.directory (node?_of_find opened).symm).trans (node?_of_find opened))

theorem find_of_unlinked (leads : f.find false p = .ok found)
    (unlinked : ∀ target, found.node? ≠ some (.link target)) : f.find true p = .ok found := by
  obtain ⟨clean, present, fits, steps⟩ := find_eq_ok.1 leads
  exact find_eq_ok.2 ⟨clean, present, fits, steps.of_unlinked unlinked⟩

theorem find_stopping (leads : f.find true p = .ok found) :
    f.find false p = .ok found ∨ ∃ place target, f.find false p = .ok ⟨place, some (.link target)⟩ := by
  obtain ⟨clean, present, fits, steps⟩ := find_eq_ok.1 leads
  rcases steps.stopping with same | ⟨place, target, stops⟩
  · exact .inl (find_eq_ok.2 ⟨clean, present, fits, same⟩)
  · exact .inr ⟨place, target, find_eq_ok.2 ⟨clean, present, fits, stops⟩⟩

theorem head?_of_find {before : List Step} {name : Bytes} (named : steps p = before ++ [.name name])
    (leads : f.find false p = .ok found) : found.place.head? = some name := by
  obtain ⟨-, -, -, walked⟩ := find_eq_ok.1 leads
  rw [named] at walked
  exact walked.last.1

theorem find_error {cause : IoError} (fails : f.find through p = .error cause) :
    cause.kind ≠ .alreadyExists := by
  have walks : ∀ links place steps cause, f.walk through links place steps = .error cause →
      cause.kind ≠ .alreadyExists := by
    intro links
    induction links with
    | zero =>
      intro place steps cause fails
      refine pass_error ?_ fails
      intro _ _ _ loop
      cases loop
      nofun
    | succ links ih => exact fun place steps cause fails => pass_error ih fails
  unfold find at fails
  split at fails
  · cases fails
    nofun
  split at fails
  · cases fails
    nofun
  split at fails
  · cases fails
    nofun
  · exact walks _ _ _ _ fails

end AuditTrail.Files
