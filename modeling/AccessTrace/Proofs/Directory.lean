import AccessTrace.Directory

namespace AccessTrace

namespace DirectoryTree

/-- What a path leads to. That does not depend on which files there are. -/
def place? (tree : DirectoryTree) (path : Path) : Option Place :=
  (Directory.resolve { tree } path).toOption

/-- The way to the file that a path leads to. The file need not exist. -/
def way? (tree : DirectoryTree) (path : Path) : Option String :=
  match tree.place? path with
  | some (.file here name) => some (here.way name)
  | _ => none

/-- Whatever is written by way of the one path, the file of the other one stays as it is. -/
def Apart (tree : DirectoryTree) (path other : Path) : Prop :=
  ∀ way, tree.way? path = some way → tree.way? other ≠ some way

instance (tree : DirectoryTree) (path other : Path) : Decidable (tree.Apart path other) :=
  decidable_of_iff ((tree.way? path).all fun way => tree.way? other ≠ some way) (by
    cases known : tree.way? path <;> simp [Apart, known])

end DirectoryTree

namespace Directory

variable {d d' : Directory} {path other : Path} {place : Place} {way : String}
  {octets : List UInt8} {f : List UInt8 → List UInt8}

theorem follow_congr (same : d'.tree = d.tree) {here : Location} {links : Nat}
    {names : List String} (followed : d.follow here links names = .ok place) :
    d'.follow here links names = .ok place := by
  induction names generalizing here links with
  | nil => exact followed
  | cons name rest ih =>
    simp only [follow, same] at followed ⊢
    split at followed
    · cases followed
    · next allowed =>
      rw [if_neg allowed]
      split at followed
      · exact ih followed
      · split at followed
        · next last => rw [if_pos last]; exact followed
        · cases followed

theorem resolve_congr (same : d'.tree = d.tree) (resolved : d.resolve path = .ok place) :
    d'.resolve path = .ok place := by
  simp only [resolve] at resolved ⊢
  split at resolved
  · cases resolved
  · next plain =>
    rw [if_neg plain]
    split at resolved
    · cases resolved
    · next some_text =>
      rw [if_neg some_text]
      split at resolved
      · cases resolved
      · next short =>
        rw [if_neg short]
        exact follow_congr same resolved

theorem resolve_eq_ok_iff : d.resolve path = .ok place ↔ d.tree.place? path = some place := by
  have known : d.tree.place? path = some place ↔
      Directory.resolve { tree := d.tree } path = .ok place := by
    rw [DirectoryTree.place?]
    cases Directory.resolve { tree := d.tree } path <;> simp [Except.toOption]
  rw [known]
  constructor
  · exact resolve_congr rfl
  · exact resolve_congr rfl

theorem way?_eq_some_iff {tree : DirectoryTree} :
    tree.way? path = some way ↔
      ∃ here name, tree.place? path = some (.file here name) ∧ here.way name = way := by
  rw [DirectoryTree.way?]
  constructor
  · intro known
    split at known
    · next here name place => exact ⟨here, name, place, Option.some.inj known⟩
    · cases known
  · rintro ⟨here, name, place, rfl⟩
    rw [place]

theorem way?_of_file {here : Location} {name : String}
    (resolved : d.resolve path = .ok (.file here name)) :
    d.tree.way? path = some (here.way name) := by
  rw [DirectoryTree.way?, resolve_eq_ok_iff.mp resolved]

theorem way?_of_device {device : Device} (resolved : d.resolve path = .ok (.device device)) :
    d.tree.way? path = none := by
  rw [DirectoryTree.way?, resolve_eq_ok_iff.mp resolved]

theorem isOutput_eq_true_iff :
    d.isOutput path = true ↔ d.tree.place? path = some (.device .output) := by
  rw [← resolve_eq_ok_iff (d := d), isOutput]
  cases d.resolve path <;> simp

theorem isSameFile_of_apart (apart : d.tree.Apart path other) :
    d.isSameFile other path = false := by
  unfold isSameFile
  split
  · next there name here name' resolved resolved' =>
    rw [Bool.eq_false_iff]
    intro same
    simp only [Bool.and_eq_true, decide_eq_true_eq] at same
    obtain ⟨rfl, rfl⟩ := same
    exact apart _ (way?_of_file resolved') (way?_of_file resolved)
  · rfl

section Changes

theorem lookup_filter_ne {name : String} (other : name ≠ way) (files : List (String × List UInt8)) :
    (files.filter fun file => file.1 ≠ way).lookup name = files.lookup name := by
  induction files with
  | nil => rfl
  | cons file rest ih =>
    by_cases gone : file.1 = way
    · have apart : (name == file.1) = false := beq_false_of_ne (gone ▸ other)
      rw [List.filter_cons_of_neg (by simpa using gone), List.lookup_cons, apart]
      exact ih
    · rw [List.filter_cons_of_pos (by simpa using gone), List.lookup_cons, List.lookup_cons, ih]

theorem find?_put (d : Directory) (way name : String) (octets : List UInt8) :
    (d.put way octets).find? name = if name = way then some octets else d.find? name := by
  simp only [find?, put, List.lookup_cons]
  by_cases same : name = way
  · simp [same]
  · have apart : (name == way) = false := beq_false_of_ne same
    simp only [apart, if_neg same, lookup_filter_ne same]

theorem update_eq_ok (changed : d.update path f = .ok d') :
    path.endsInSlash = false ∧
      d' = match d.tree.way? path with
        | some way => d.put way (f ((d.find? way).getD []))
        | none => d := by
  cases resolved : d.resolve path with
  | error error => simp [update, resolved, bind, Except.bind] at changed
  | ok place =>
    simp only [update, resolved, bind, Except.bind] at changed
    cases slash : path.endsInSlash with
    | true => simp [slash, throw, throwThe, MonadExceptOf.throw] at changed
    | false =>
      refine ⟨rfl, ?_⟩
      simp only [slash, Bool.false_eq_true, if_false] at changed
      cases place with
      | directory here => cases changed
      | device device =>
        rw [way?_of_device resolved]
        dsimp only at changed
        split at changed
        · cases changed
        · exact (Except.ok.inj changed).symm
      | file here name =>
        rw [way?_of_file resolved]
        dsimp only at changed
        split at changed
        · cases changed
        · split at changed
          · cases changed
          · exact (Except.ok.inj changed).symm

theorem update_eq_ok_of_file (file : d.tree.way? path = some way)
    (changed : d.update path f = .ok d') :
    path.endsInSlash = false ∧ d' = d.put way (f ((d.find? way).getD [])) := by
  have done := update_eq_ok changed
  rwa [file] at done

theorem find?_update (changed : d.update path f = .ok d') (apart : d.tree.way? path ≠ some way) :
    d'.find? way = d.find? way := by
  obtain ⟨-, rfl⟩ := update_eq_ok changed
  cases known : d.tree.way? path with
  | none => rfl
  | some changed =>
    rw [known] at apart
    have other : way ≠ changed := fun same => apart (congrArg some same.symm)
    rw [find?_put, if_neg other]

theorem tree_update (changed : d.update path f = .ok d') : d'.tree = d.tree := by
  obtain ⟨-, rfl⟩ := update_eq_ok changed
  cases d.tree.way? path <;> rfl

end Changes

section Opening

theorem isEndless_congr (same : d'.tree = d.tree) : d'.isEndless path = d.isEndless path := by
  cases resolved : d.resolve path with
  | ok place => simp only [isEndless, resolved, resolve_congr same resolved]
  | error error =>
    cases resolved' : d'.resolve path with
    | ok place => cases resolved.symm.trans (resolve_congr same.symm resolved')
    | error error' => simp only [isEndless, resolved, resolved']

theorem openFile_congr {source : Source} (tree : d'.tree = d.tree)
    (same : ∀ way, d.tree.way? path = some way → d'.find? way = d.find? way)
    (opened : d.openFile path = .ok source) : d'.openFile path = .ok source := by
  cases resolved : d.resolve path with
  | error error => simp [openFile, resolved, bind, Except.bind] at opened
  | ok place =>
    have resolved' := resolve_congr tree resolved
    simp only [openFile, resolved, resolved', bind, Except.bind] at opened ⊢
    cases place with
    | directory here => exact opened
    | device device => exact opened
    | file here name =>
      simp only [same _ (way?_of_file resolved)]
      cases known : d.find? (here.way name) with
      | none => simp [known] at opened
      | some octets => simpa [known] using opened

theorem openFile_of_file (file : d.tree.way? path = some way) (name : path.endsInSlash = false)
    (known : d.find? way = some octets) : d.openFile path = .ok { octets } := by
  obtain ⟨here, last, place, rfl⟩ := way?_eq_some_iff.mp file
  have resolved : d.resolve path = .ok (.file here last) := resolve_eq_ok_iff.mpr place
  simp [openFile, resolved, known, name, bind, Except.bind, pure, Except.pure]

end Opening

end Directory

end AccessTrace
