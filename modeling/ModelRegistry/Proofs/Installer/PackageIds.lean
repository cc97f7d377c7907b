import ModelRegistry.Package
import ModelRegistry.Proofs.Path.Components

/-!
# Ids of packages stay in their directory

The id of a package comes from the command line and becomes part of a path.  An id that could lead
elsewhere is `Unfit`, and it is refused whatever files there are.  Any other id makes one name
behind the directory, since it has no slash in it and the ending keeps it from being a dot or two.
So the descriptor stands in the directory, in whatever way that is spelled (`parent_descriptor`),
and two ids have two descriptors (`eq_of_same_descriptor`).

What a lookup reads is told by what can make a difference to it (`Reads`).
-/

namespace ModelRegistry

/-- What is found among files can depend on what is read at a path. -/
def Files.Reads {α : Type} (find : Files → α) (p : Path) : Prop :=
  ∃ files files' : Files, files.isRegular? = files'.isRegular? ∧
    (∀ q, q ≠ p → files.read q = files'.read q) ∧ find files ≠ find files'

namespace PackageDb

/-! ## Ids -/

/-- An id that could be more, or less, than a part of the name of a file. -/
def Unfit (pkgId : String) : Prop :=
  pkgId = "" ∨ pkgId = "." ∨ pkgId = ".." ∨
    ∃ c ∈ pkgId.toList, c = '/' ∨ c = '\\' ∨ c = '\x00'

/-- The name of the file that describes a package. -/
def fileName (pkgId : String) : Bytes := Text.bytes (pkgId ++ ".toml")

/-- The file that describes a package. -/
def descriptor (db : PackageDb) (pkgId : String) : Path :=
  db.directory.join (.ofText (pkgId ++ ".toml"))

variable {pkgId : String}

theorem isValidId_iff : isValidId pkgId = true ↔ ¬ Unfit pkgId := by
  simp only [isValidId, Unfit, Bool.and_eq_true, decide_eq_true_eq, List.all_eq_true, not_or,
    not_exists, not_and, and_assoc]

theorem descriptorPath?_of_unfit (db : PackageDb) (h : Unfit pkgId) :
    db.descriptorPath? pkgId = none :=
  if_neg fun hvalid => isValidId_iff.1 hvalid h

theorem descriptorPath?_of_fit (db : PackageDb) (h : ¬ Unfit pkgId) :
    db.descriptorPath? pkgId = some (db.descriptor pkgId) :=
  if_pos (isValidId_iff.2 h)

theorem fileName_inj {other : String} (h : fileName pkgId = fileName other) : pkgId = other := by
  have htext := congrArg String.toList (Text.bytes_injective h)
  rw [String.toList_append, String.toList_append] at htext
  exact String.toList_inj.1 (List.append_cancel_right htext)

/-- With the ending, an id that is fit names something in a directory. -/
theorem isEntry_of_fit (h : ¬ Unfit pkgId) : Path.IsEntry (pkgId ++ ".toml") := by
  have hlength : (pkgId ++ ".toml").length = pkgId.length + 5 := String.length_append pkgId ".toml"
  have hlong {s : String} (hs : s.length < 5) : pkgId ++ ".toml" ≠ s := by
    rintro rfl
    omega
  refine ⟨hlong (by decide), hlong (by decide), hlong (by decide), fun hslash => ?_⟩
  rw [String.toList_append] at hslash
  rcases List.mem_append.1 hslash with hid | hending
  · exact h (.inr (.inr (.inr ⟨'/', hid, .inl rfl⟩)))
  · exact absurd hending (by decide)

/-! ## The descriptor -/

section Descriptor

variable (db : PackageDb)

/-- The descriptor of a package is its directory with one name more. -/
theorem components_descriptor (h : ¬ Unfit pkgId) :
    (db.descriptor pkgId).components = db.directory.components ++ [fileName pkgId] :=
  (isEntry_of_fit h).components_join db.directory

theorem parent_descriptor (h : ¬ Unfit pkgId) :
    ∃ parent, (db.descriptor pkgId).parent? = some parent ∧ parent.Same db.directory :=
  (isEntry_of_fit h).same_parent_join db.directory

/-- It leads one level down from where the directory leads. -/
theorem route_descriptor (h : ¬ Unfit pkgId) :
    (db.descriptor pkgId).route =
      { db.directory.route with names := fileName pkgId :: db.directory.route.names } :=
  (isEntry_of_fit h).route_join db.directory

/-- Two ids have two descriptors. -/
theorem eq_of_same_descriptor {other : String} (h : ¬ Unfit pkgId) (hother : ¬ Unfit other)
    (hsame : (db.descriptor pkgId).Same (db.descriptor other)) : pkgId = other := by
  have hcomponents := hsame.components
  rw [components_descriptor db h, components_descriptor db hother] at hcomponents
  exact fileName_inj (List.singleton_inj.1 (List.append_cancel_left hcomponents))

end Descriptor

/-! ## Looking a package up -/

/-- What is found under an id, by what was read. -/
def found (pkgId : String) : Except IoFault Bytes → Except PackageError Package
  | .error .notFound => .error (.notFound pkgId)
  | .error fault => .error (.unreadable pkgId fault.message)
  | .ok content =>
    match fields content with
    | .error detail => .error (.unreadable pkgId detail)
    | .ok value? => .ok (package pkgId value?)

theorem found_ne_invalidId (read : Except IoFault Bytes) (id : String) :
    found pkgId read ≠ .error (.invalidId id) := by
  cases read with
  | error fault => cases fault <;> simp [found]
  | ok content =>
    rw [found]
    cases fields content <;> simp

section Source

variable (db : PackageDb)

/-- An id that is refused is not looked up. -/
theorem source_eq (files : Files) (pkgId : String) :
    db.source files pkgId =
      match db.descriptorPath? pkgId with
      | none => .error (.invalidId pkgId)
      | some path => found pkgId (files.read path) := rfl

theorem source_of_unfit (h : Unfit pkgId) (files : Files) :
    db.source files pkgId = .error (.invalidId pkgId) := by
  rw [source_eq, descriptorPath?_of_unfit db h]

/-- What is found under an id that is fit is told by what is read at its descriptor. -/
theorem source_of_fit (h : ¬ Unfit pkgId) (files : Files) :
    db.source files pkgId = found pkgId (files.read (db.descriptor pkgId)) := by
  rw [source_eq, descriptorPath?_of_fit db h]

theorem source_congr (h : ¬ Unfit pkgId) {files files' : Files}
    (hread : files.read (db.descriptor pkgId) = files'.read (db.descriptor pkgId)) :
    db.source files pkgId = db.source files' pkgId := by
  rw [source_of_fit db h, source_of_fit db h, hread]

theorem source_eq_invalidId_iff (files : Files) :
    (∃ id, db.source files pkgId = .error (.invalidId id)) ↔ Unfit pkgId := by
  constructor
  · rintro ⟨id, hid⟩
    by_contra h
    rw [source_of_fit db h] at hid
    exact found_ne_invalidId _ id hid
  · intro h
    exact ⟨pkgId, source_of_unfit db h files⟩

/-- It makes a difference whether the descriptor is missing or a directory. -/
theorem reads_descriptor (h : ¬ Unfit pkgId) :
    Files.Reads (db.source · pkgId) (db.descriptor pkgId) := by
  let missing : Files := ⟨fun _ => none, fun _ => .error .notFound⟩
  let directory : Files :=
    ⟨fun _ => none, Function.update missing.read (db.descriptor pkgId) (.error .isADirectory)⟩
  refine ⟨missing, directory, rfl, fun q hq => (Function.update_of_ne hq _ _).symm, ?_⟩
  show db.source missing pkgId ≠ db.source directory pkgId
  rw [source_of_fit db h, source_of_fit db h]
  simp [missing, directory, found]

/-- Nothing else is read. -/
theorem reads_source_iff (p : Path) :
    Files.Reads (db.source · pkgId) p ↔ ¬ Unfit pkgId ∧ p = db.descriptor pkgId := by
  constructor
  · rintro ⟨files, files', -, hothers, hne⟩
    by_cases h : Unfit pkgId
    · exact absurd ((source_of_unfit db h files).trans (source_of_unfit db h files').symm) hne
    · refine ⟨h, ?_⟩
      by_contra hp
      exact hne (source_congr db h (hothers _ (Ne.symm hp)))
  · rintro ⟨h, rfl⟩
    exact reads_descriptor db h

end Source

/-- **The id of a package does not lead out of the directory.**  An id is refused exactly if it is
empty, a dot or two dots, or has a slash, a backslash or a NUL in it, and then it is refused
whatever files there are.  Any other id makes a lookup read one path and nothing else: the directory
joined with the id and its ending.  The parent of this path is the directory, and its last component
is the id with the ending; when the names are followed, it leads one level down from where the
directory leads.  And two such ids never read the same path, in any spelling. -/
theorem ids_stay_in_directory (db : PackageDb) (pkgId : String) :
    let path := db.directory.join (.ofText (pkgId ++ ".toml"))
    (∀ files, (∃ id, db.source files pkgId = .error (.invalidId id)) ↔ Unfit pkgId) ∧
    (Unfit pkgId → ∀ files, db.source files pkgId = .error (.invalidId pkgId)) ∧
    (∀ p, Files.Reads (db.source · pkgId) p ↔ ¬ Unfit pkgId ∧ p = path) ∧
    (¬ Unfit pkgId →
      (∀ files files', files.read path = files'.read path →
        db.source files pkgId = db.source files' pkgId) ∧
      (∃ parent, path.parent? = some parent ∧ parent.Same db.directory) ∧
      path.components = db.directory.components ++ [Text.bytes (pkgId ++ ".toml")] ∧
      path.route = { db.directory.route with
        names := Text.bytes (pkgId ++ ".toml") :: db.directory.route.names } ∧
      ∀ other, ¬ Unfit other →
        path.Same (db.directory.join (.ofText (other ++ ".toml"))) → pkgId = other) := by
  intro path
  refine ⟨source_eq_invalidId_iff db, source_of_unfit db, reads_source_iff db, fun h => ?_⟩
  exact ⟨fun _ _ => source_congr db h, parent_descriptor db h, components_descriptor db h,
    route_descriptor db h, fun _ => eq_of_same_descriptor db h⟩

end PackageDb
end ModelRegistry
