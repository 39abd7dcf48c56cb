import AuditTrail.Proofs.Files.Find

/-! What a path names and holds, and how changes of the files affect it. -/
namespace AuditTrail

theorem ok_of_toOption {ε α : Type} {x : Except ε α} {a : α} (kept : x.toOption = some a) :
    x = .ok a := by
  cases x with
  | error e => cases kept
  | ok b => rw [Option.some.inj kept]

namespace Files

variable {f g : Files} {place : Place} {n m : Nat} {p : Path} {content : Bytes}

/-- The path leads to the file, and its last component is no link. -/
def Names (f : Files) (p : Path) (number : Nat) : Prop :=
  ∃ place, f.find false p = .ok ⟨place, some (.file number)⟩

/-- The content of a file, empty if it cannot be read. -/
def text (f : Files) (p : Path) : Bytes := (f.read p).toOption.getD []

theorem number_eq_ok :
    f.number p = .ok n ↔ ∃ place, f.find true p = .ok ⟨place, some (.file n)⟩ := by
  unfold Files.number locate
  cases f.find true p with
  | error cause => simp
  | ok target =>
    obtain ⟨place, node?⟩ := target
    cases node? with
    | none => simp
    | some node => cases node <;> simp

theorem Names.number (names : f.Names p n) : f.number p = .ok n := by
  obtain ⟨place, found⟩ := names
  exact number_eq_ok.2 ⟨place, find_of_unlinked found (by simp)⟩

theorem Names.unique (names : f.Names p n) (other : f.Names p m) : n = m := by
  have same := names.number.symm.trans other.number
  exact Except.ok.inj same

theorem text_of_number (leads : f.number p = .ok n)
    (regular : f.inode? n = some (.regular content)) : f.text p = content := by
  simp [text, read, leads, contentOf, regular, Except.toOption]

theorem contentOf_regular (regular : f.inode? n = some (.regular content)) :
    f.contentOf n = .ok content := by
  simp [contentOf, regular]

theorem find_keep {through : Bool} (same : SameWays f g)
    (found : f.find through p = .ok ⟨place, some (.file n)⟩)
    (stays : ∀ place, f.node? place = some (.file n) → g.node? place = some (.file n)) :
    g.find through p = .ok ⟨place, some (.file n)⟩ := by
  have there := (node?_of_find found).symm
  exact same.find_stays found ((stays place there).trans there.symm)

theorem Names.keep (same : SameWays f g) (names : f.Names p n)
    (stays : ∀ place, f.node? place = some (.file n) → g.node? place = some (.file n)) :
    g.Names p n := by
  obtain ⟨place, found⟩ := names
  exact ⟨place, find_keep same found stays⟩

theorem number_keep (same : SameWays f g) (leads : f.number p = .ok n)
    (stays : ∀ place, f.node? place = some (.file n) → g.node? place = some (.file n)) :
    g.number p = .ok n := by
  obtain ⟨place, found⟩ := number_eq_ok.1 leads
  exact number_eq_ok.2 ⟨place, find_keep same found stays⟩

section AddFile

variable (free : f.node? place = none)
include free

theorem stays_addFile {node : Node} {other : Place} (there : f.node? other = some node) :
    (f.addFile place content).node? other = some node := by
  rw [node?_addFile free]
  split
  · next same => simp [same, free] at there
  · exact there

theorem Names.addFile (names : f.Names p n) : (f.addFile place content).Names p n :=
  names.keep (.addFile free content) fun _ there => stays_addFile free there

theorem number_addFile (leads : f.number p = .ok n) :
    (f.addFile place content).number p = .ok n :=
  number_keep (.addFile free content) leads fun _ there => stays_addFile free there

end AddFile

theorem find_addFile {through : Bool} (found : f.find through p = .ok ⟨place, none⟩) :
    (f.addFile place content).find through p = .ok ⟨place, some (.file f.inodes.length)⟩ := by
  have free := (node?_of_find found).symm
  have moved := (SameWays.addFile free content).find found
  rw [node?_addFile free, if_pos rfl] at moved
  exact moved

theorem names_addFile (found : f.find false p = .ok ⟨place, none⟩) :
    (f.addFile place content).Names p f.inodes.length :=
  ⟨place, find_addFile found⟩

theorem number_addFile_found (found : f.find true p = .ok ⟨place, none⟩) :
    (f.addFile place content).number p = .ok f.inodes.length :=
  number_eq_ok.2 ⟨place, find_addFile found⟩

theorem Names.old (sound : Sound f) (names : f.Names p n) : n < f.inodes.length := by
  obtain ⟨place, found⟩ := names
  exact sound.numbered place n (node?_of_find found).symm

theorem number_old (sound : Sound f) (leads : f.number p = .ok n) : n < f.inodes.length := by
  obtain ⟨place, found⟩ := number_eq_ok.1 leads
  exact sound.numbered place n (node?_of_find found).symm

theorem Names.revise (names : f.Names p n) (change : Bytes → Bytes) :
    (f.revise m change).Names p n :=
  names.keep (.revise change) fun _ there => by rwa [node?_revise]

theorem number_revise (change : Bytes → Bytes) (leads : f.number p = .ok n) :
    (f.revise m change).number p = .ok n :=
  number_keep (.revise change) leads fun _ there => by rwa [node?_revise]

theorem stays_erase (file : f.node? place = some (.file m)) (apart : n ≠ m)
    {other : Place} (there : f.node? other = some (.file n)) :
    (f.erase place).node? other = some (.file n) := by
  rw [node?_erase (ne_root_of_file file), if_neg]
  · exact there
  · rintro rfl
    rw [there] at file
    exact apart (Node.file.inj (Option.some.inj file))

theorem Names.erase (names : f.Names p n) (file : f.node? place = some (.file m))
    (apart : n ≠ m) : (f.erase place).Names p n :=
  names.keep (.erase file) fun _ there => stays_erase file apart there

theorem number_erase (leads : f.number p = .ok n) (file : f.node? place = some (.file m))
    (apart : n ≠ m) : (f.erase place).number p = .ok n :=
  number_keep (.erase file) leads fun _ there => stays_erase file apart there

/-- The files differ at most in the content or the existence of one file. -/
structure Beside (f g : Files) (target : Nat) : Prop where
  names : ∀ p n, n ≠ target → f.Names p n → g.Names p n
  numbers : ∀ p n, n ≠ target → f.number p = .ok n → g.number p = .ok n
  inodes : ∀ n, n ≠ target → g.inode? n = f.inode? n

theorem Beside.addFile (free : f.node? place = none) (content : Bytes) :
    Beside f (f.addFile place content) f.inodes.length where
  names _ _ _ names := names.addFile free
  numbers _ _ _ leads := number_addFile free leads
  inodes n apart := by rw [inode?_addFile, if_neg apart]

theorem Beside.revise (change : Bytes → Bytes) : Beside f (f.revise m change) m where
  names _ _ _ names := names.revise change
  numbers _ _ _ leads := number_revise change leads
  inodes _ apart := inode?_revise_other apart

theorem Beside.erase (file : f.node? place = some (.file m)) : Beside f (f.erase place) m where
  names _ _ apart names := names.erase file apart
  numbers _ _ apart leads := number_erase leads file apart
  inodes n _ := inode?_erase n

theorem Beside.text (beside : Beside f g m) (leads : f.number p = .ok n) (apart : n ≠ m) :
    g.text p = f.text p := by
  have leads' := beside.numbers p n apart leads
  have same : g.contentOf n = f.contentOf n := by
    rw [contentOf, contentOf, beside.inodes n apart]
  rw [Files.text, Files.text, read, read, leads, leads']
  simp only [same]

theorem overwrite_whole (content held : Bytes) (part : held <+: content) :
    overwrite content held = content := by
  rw [overwrite, List.drop_eq_nil_of_le part.length_le, List.append_nil]

theorem overwrite_part {part held : Bytes} (fresh : part <+: content) (old : held <+: content) :
    overwrite part held <+: content := by
  rcases Nat.le_total held.length part.length with shorter | longer
  · rw [overwrite, List.drop_eq_nil_of_le shorter, List.append_nil]
    exact fresh
  · obtain ⟨more, rfl⟩ := List.prefix_of_prefix_length_le fresh old longer
    rw [overwrite, List.drop_left]
    exact old

/-- Appending creates the file or extends it. -/
theorem append_cases {more : Bytes} (appended : f.append p more = .ok g) :
    (∃ place, f.find true p = .ok ⟨place, none⟩ ∧ g = f.addFile place more) ∨
    ∃ n, f.number p = .ok n ∧ g = f.revise n (· ++ more) := by
  unfold append update at appended
  split at appended
  · cases appended
  · next place found =>
    refine .inl ⟨place, found, ?_⟩
    simpa using (Except.ok.inj appended).symm
  · next place n found =>
    split at appended
    · cases appended
    · exact .inr ⟨n, number_eq_ok.2 ⟨place, found⟩, (Except.ok.inj appended).symm⟩
  · cases appended
  · cases appended

/-- The file keeps what is written to it. -/
def Plain (f : Files) (p : Path) : Prop :=
  ∀ n, f.number p = .ok n → ∃ content, f.inode? n = some (.regular content)

theorem plain_of_number (leads : f.number p = .ok n)
    (regular : f.inode? n = some (.regular content)) : f.Plain p := by
  intro m other
  obtain rfl := Except.ok.inj (leads.symm.trans other)
  exact ⟨content, regular⟩

theorem Plain.inode? (plain : f.Plain p) (leads : f.number p = .ok n) :
    f.inode? n = some (.regular (f.text p)) := by
  obtain ⟨content, regular⟩ := plain n leads
  rw [text_of_number leads regular, regular]

theorem Plain.beside (plain : f.Plain p) (beside : Beside f g m) (leads : f.number p = .ok n)
    (apart : n ≠ m) : g.Plain p := by
  intro k leads'
  obtain rfl : n = k := Except.ok.inj ((beside.numbers p n apart leads).symm.trans leads')
  rw [beside.inodes n apart]
  exact plain n leads

theorem text_of_free (found : f.find true p = .ok ⟨place, none⟩) : f.text p = [] := by
  simp [Files.text, read, Files.number, locate, found, Except.toOption]

theorem text_append {more : Bytes} (plain : f.Plain p) (appended : f.append p more = .ok g) :
    g.text p = f.text p ++ more ∧ g.Plain p := by
  obtain ⟨n, leads, grown⟩ : ∃ n, g.number p = .ok n ∧
      g.inode? n = some (.regular (f.text p ++ more)) := by
    rcases append_cases appended with ⟨place, found, rfl⟩ | ⟨n, leads, rfl⟩
    · refine ⟨_, number_addFile_found found, ?_⟩
      rw [inode?_addFile, if_pos rfl, text_of_free found, List.nil_append]
    · exact ⟨n, number_revise _ leads, inode?_revise_same (plain.inode? leads)⟩
  exact ⟨text_of_number leads grown, plain_of_number leads grown⟩

/-- The path leads to the same file with the same content in both states, or to none. -/
structure Agree (f g : Files) (p : Path) : Prop where
  number : ∀ n, g.number p = .ok n ↔ f.number p = .ok n
  inode? : ∀ n, f.number p = .ok n → g.inode? n = f.inode? n

theorem Agree.refl (f : Files) (p : Path) : Agree f f p := ⟨fun _ => Iff.rfl, fun _ _ => rfl⟩

theorem Agree.of_number (leads : f.number p = .ok n) (leads' : g.number p = .ok n)
    (inode : g.inode? n = f.inode? n) : Agree f g p where
  number m := by rw [leads, leads']
  inode? m other := by
    obtain rfl := Except.ok.inj (leads.symm.trans other)
    exact inode

theorem Agree.erase (file : f.node? place = some (.file m))
    (apart : ∀ other n, f.find true p = .ok ⟨other, some (.file n)⟩ → other ≠ place) :
    Agree f (f.erase place) p where
  number n := by
    have same : SameWays f (f.erase place) := .erase file
    have root := ne_root_of_file file
    constructor
    · intro leads
      obtain ⟨other, found⟩ := number_eq_ok.1 leads
      have there := node?_of_find found
      rw [node?_erase root] at there
      split at there
      · cases there
      · exact number_eq_ok.2 ⟨other, same.symm.find_stays found (there.symm.trans (node?_of_find found))⟩
    · intro leads
      obtain ⟨other, found⟩ := number_eq_ok.1 leads
      refine number_eq_ok.2 ⟨other, same.find_stays found ?_⟩
      rw [node?_erase root, if_neg (apart other n found)]
  inode? n _ := inode?_erase n

theorem Agree.plain (agree : Agree f g p) (plain : f.Plain p) : g.Plain p := by
  intro n leads
  have before := (agree.number n).1 leads
  rw [agree.inode? n before]
  exact plain n before

theorem Agree.text (agree : Agree f g p) : g.text p = f.text p := by
  cases before : f.number p with
  | ok n =>
    have after := (agree.number n).2 before
    rw [Files.text, Files.text, read, read, before, after]
    simp only [contentOf, agree.inode? n before]
  | error cause =>
    cases after : g.number p with
    | ok n =>
      rw [(agree.number n).1 after] at before
      cases before
    | error other =>
      rw [Files.text, Files.text, read, read, before, after]
      rfl

/-- A change that makes files at free places, removes files or changes contents. -/
structure Evolves (f g : Files) : Prop where
  ways : SameWays f g
  sound : f.Sound → g.Sound
  grows : f.inodes.length ≤ g.inodes.length
  places : ∀ place n, g.node? place = some (.file n) →
    f.node? place = some (.file n) ∨ f.inodes.length ≤ n

theorem Evolves.refl (f : Files) : Evolves f f :=
  ⟨.refl f, id, Nat.le_refl _, fun _ _ file => .inl file⟩

theorem Evolves.addFile (free : f.node? place = none) (content : Bytes) :
    Evolves f (f.addFile place content) where
  ways := .addFile free content
  sound sound := sound.addFile free content
  grows := by rw [length_addFile]; omega
  places other n file := by
    rw [node?_addFile free] at file
    split at file
    · obtain rfl : f.inodes.length = n := by simpa using file
      exact .inr (Nat.le_refl _)
    · exact .inl file

theorem Evolves.erase (file : f.node? place = some (.file m)) : Evolves f (f.erase place) where
  ways := .erase file
  sound sound := sound.erase file
  grows := Nat.le_refl _
  places other n there := by
    rw [node?_erase (ne_root_of_file file)] at there
    split at there
    · cases there
    · exact .inl there

theorem Evolves.revise (change : Bytes → Bytes) : Evolves f (f.revise m change) where
  ways := .revise change
  sound sound := sound.revise change
  grows := Nat.le_of_eq (length_revise change).symm
  places other n there := by
    rw [node?_revise] at there
    exact .inl there

theorem Evolves.append {more : Bytes} (appended : f.append p more = .ok g) : Evolves f g := by
  rcases append_cases appended with ⟨place, found, rfl⟩ | ⟨n, -, rfl⟩
  · exact .addFile (node?_of_find found).symm more
  · exact .revise _

/-- The path leads nowhere, or to a file not older than `since`. -/
def Young (f : Files) (since : Nat) (p : Path) : Prop :=
  ∀ found, f.find false p = .ok found →
    found.node? = none ∨ ∃ n, since ≤ n ∧ found.node? = some (.file n)

theorem Young.evolves {since : Nat} (young : Young f since p) (evolves : Evolves f g)
    (early : since ≤ f.inodes.length) : Young g since p := by
  intro found leads
  have back := evolves.ways.symm.find leads
  have here := node?_of_find leads
  have free : way (f.node? found.place) = none := by
    rcases young _ back with free | ⟨n, -, file⟩
    · simp only at free
      rw [free]
      rfl
    · simp only at file
      rw [file]
      rfl
  rcases evolves.ways.not_way free with none_ | ⟨n, file⟩
  · exact .inl (here.trans none_)
  · refine .inr ⟨n, ?_, here.trans file⟩
    rcases evolves.places _ n file with old | late
    · rcases young _ back with free' | ⟨k, late, file'⟩
      · simp only at free'
        rw [free'] at old
        cases old
      · simp only at file'
        rw [file'] at old
        obtain rfl := Node.file.inj (Option.some.inj old)
        exact late
    · exact Nat.le_trans early late

end Files

end AuditTrail
