import ModelRegistry.Proofs.Installer.Orchestration
import ModelRegistry.Proofs.Path.Components

/-!
# Where the manifest of a package is

The manifest is to be found in a directory of the package, `globalDirectory`, under the kind of the
package's resources.  The kind is a text that the descriptor of the package holds and nobody looks
at, and it becomes part of a path.  So it can lead out of the directory, which it is not meant to do
(`KeepsManifestsInside`): a kind that starts at the root takes the place of all that is before it,
and two dots lead up.

`manifest_inside_iff` says of every kind which manifests stay inside.  What counts is the route of
the kind alone (`Path.Route`): how many levels it climbs, and whether the names that it then enters
lead back along the levels that it has left.
-/

namespace ModelRegistry

namespace Installer

/-! ## The directory -/

/-- The directory of a package that its manifest should be in. -/
def globalDirectory (root : Path) : Path := (root.join (.ofText "res")).join (.ofText "global")

/-- The names that lead from the root of a package to the directory, the last one first. -/
def globalNames : List Bytes := [Text.bytes "global", Text.bytes "res"]

theorem manifestPath_eq (root : Path) (resType : String) :
    manifestPath root resType =
      ((globalDirectory root).join (.ofText resType)).join (.ofText manifestFile) := rfl

theorem isEntry_res : Path.IsEntry "res" := ⟨by decide, by decide, by decide, by decide⟩

theorem isEntry_global : Path.IsEntry "global" := ⟨by decide, by decide, by decide, by decide⟩

theorem isAbsolute_globalDirectory (root : Path) :
    (globalDirectory root).isAbsolute = root.isAbsolute := by
  rw [globalDirectory, isEntry_global.isAbsolute_join, isEntry_res.isAbsolute_join]

theorem route_globalDirectory (root : Path) :
    (globalDirectory root).route =
      { root.route with names := globalNames ++ root.route.names } := by
  rw [globalDirectory, isEntry_global.route_join, isEntry_res.route_join]
  rfl

theorem names_route_globalDirectory (root : Path) :
    (globalDirectory root).route.names = globalNames ++ root.route.names := by
  rw [route_globalDirectory]

/-! ## The manifest -/

/-- The name of a manifest. -/
def manifestName : Bytes := Text.bytes manifestFile

theorem isEntry_manifestFile : Path.IsEntry manifestFile :=
  ⟨by decide, by decide, by decide, by decide⟩

theorem isAbsolute_manifestFile : (Path.ofText manifestFile).isAbsolute = false :=
  isEntry_manifestFile.isAbsolute

theorem names_manifestFile : (Path.ofText manifestFile).names = [manifestName] :=
  isEntry_manifestFile.names

theorem isPlain_manifestName : Path.Route.IsPlain manifestName := isEntry_manifestFile.isPlain

theorem manifestName_ne_global : Text.bytes "global" ≠ manifestName :=
  mt Text.bytes_injective (by decide)

/-- Names of a directory that are left behind are not taken back by the name of the manifest. -/
theorem suffix_manifestName_iff (levels : Nat) (names names' : List Bytes) :
    (globalNames ++ names).take levels <:+ manifestName :: names' ↔
      (globalNames ++ names).take levels <:+ names' := by
  rw [List.suffix_cons_iff, or_iff_right]
  cases levels with
  | zero => exact (List.cons_ne_nil _ _).symm
  | succ levels =>
    intro h
    exact manifestName_ne_global (List.cons.inj h).1

section

variable (root : Path) {resType : String}

/-- A kind that does not start at the root leads on from the directory. -/
theorem route_manifestPath (hkind : (Path.ofText resType).isAbsolute = false) :
    (manifestPath root resType).isAbsolute = root.isAbsolute ∧
      (manifestPath root resType).route =
        (globalDirectory root).route.follow root.isAbsolute
          ((Path.ofText resType).names ++ [manifestName]) := by
  have hleft := Path.isAbsolute_join (p := globalDirectory root) hkind
  rw [isAbsolute_globalDirectory] at hleft
  rw [manifestPath_eq, Path.isAbsolute_join isAbsolute_manifestFile,
    Path.route_join isAbsolute_manifestFile, Path.route_join hkind, hleft,
    isAbsolute_globalDirectory, names_manifestFile, Path.Route.follow_append]
  exact ⟨rfl, rfl⟩

/-- A kind that starts at the root leads to the manifest by itself. -/
theorem manifestPath_of_isAbsolute (hkind : (Path.ofText resType).isAbsolute = true) :
    manifestPath root resType = (Path.ofText resType).join (.ofText manifestFile) := by
  rw [manifestPath_eq, Path.join_of_isAbsolute hkind]

/-! ## Inside and outside -/

/-- A kind that does not start at the root stays in the directory if it does not climb above the
start of the path, and enters again all levels of the directory that it leaves. -/
theorem contains_iff_of_relative (hkind : (Path.ofText resType).isAbsolute = false) :
    let directory := globalDirectory root
    let kind := (Path.ofText resType).route
    directory.Contains (manifestPath root resType) ↔
      (root.isAbsolute = true ∨ kind.climb ≤ directory.route.names.length) ∧
        directory.route.names.take kind.climb <:+ kind.names := by
  intro directory kind
  obtain ⟨habsolute, hroute⟩ := route_manifestPath root hkind
  have hnames : directory.route.names = globalNames ++ root.route.names :=
    names_route_globalDirectory root
  have hne : directory.route.names ≠ [] := by
    rw [hnames]
    exact List.cons_ne_nil _ _
  have hown : Path.Route.start.follow false ((Path.ofText resType).names ++ [manifestName]) =
      { kind with names := manifestName :: kind.names } := by
    rw [Path.Route.follow_concat, Path.Route.enter_plain isPlain_manifestName]
    show _ = Path.Route.mk (Path.route _).climb (_ :: (Path.route _).names)
    rw [Path.route, hkind]
  rw [Path.Contains, habsolute, isAbsolute_globalDirectory, and_iff_right rfl, hroute,
    Path.Route.toNames_prefix_follow_iff hne (fun _ => Path.Route.isPlain_of_mem_follow) hown,
    hnames, suffix_manifestName_iff]

/-- A kind that starts at the root leads into the directory only by naming the way there. -/
theorem contains_iff_of_absolute (hkind : (Path.ofText resType).isAbsolute = true) :
    let directory := globalDirectory root
    directory.Contains (manifestPath root resType) ↔
      root.isAbsolute = true ∧ directory.route.names <:+ (Path.ofText resType).route.names := by
  intro directory
  have hroute : (manifestPath root resType).route =
      ⟨0, manifestName :: (Path.ofText resType).route.names⟩ := by
    rw [manifestPath_of_isAbsolute root hkind, Path.route_join isAbsolute_manifestFile,
      names_manifestFile, Path.Route.follow_plain isPlain_manifestName, Path.route, hkind,
      Path.Route.climb_follow_root]
  have hnames : directory.route.names = globalNames ++ root.route.names :=
    names_route_globalDirectory root
  rw [Path.Contains, isAbsolute_globalDirectory, manifestPath_of_isAbsolute root hkind,
    Path.isAbsolute_join isAbsolute_manifestFile, hkind,
    ← manifestPath_of_isAbsolute root hkind, hroute]
  refine and_congr_right fun hroot => ?_
  have hclimb : directory.route.climb = 0 := by
    rw [Path.route, isAbsolute_globalDirectory, hroot, Path.Route.climb_follow_root]
  rw [Path.Route.toNames, hclimb, Path.Route.toNames, List.replicate_zero, List.nil_append,
    List.nil_append, List.reverse_prefix, ← List.take_length (l := directory.route.names), hnames,
    suffix_manifestName_iff]

variable (resType) in
theorem contains_iff :
    let directory := globalDirectory root
    let kind := Path.ofText resType
    directory.Contains (manifestPath root resType) ↔
      if kind.isAbsolute then
        root.isAbsolute = true ∧ directory.route.names <:+ kind.route.names
      else
        (root.isAbsolute = true ∨ kind.route.climb ≤ directory.route.names.length) ∧
          directory.route.names.take kind.route.climb <:+ kind.route.names := by
  intro directory kind
  cases hkind : kind.isAbsolute with
  | true => exact contains_iff_of_absolute root hkind
  | false => exact contains_iff_of_relative root hkind

end

/-- What keeps a manifest inside for all packages: the kind leaves no more than the two levels that
all of them have, and enters again what it leaves. -/
theorem forall_contains_iff (resType : String) :
    let kind := Path.ofText resType
    (∀ root, (globalDirectory root).Contains (manifestPath root resType)) ↔
      kind.isAbsolute = false ∧ kind.route.climb ≤ globalNames.length ∧
        globalNames.take kind.route.climb <:+ kind.route.names := by
  intro kind
  constructor
  · intro h
    -- The package whose root is the working directory has no further levels.
    have hbare := (contains_iff ⟨[]⟩ resType).1 (h ⟨[]⟩)
    cases hkind : kind.isAbsolute with
    | true =>
      rw [hkind] at hbare
      exact absurd hbare.1 (by decide)
    | false =>
      rw [hkind] at hbare
      exact ⟨rfl, hbare.1.resolve_left (by decide), hbare.2⟩
  · rintro ⟨hkind, hclimb, hsuffix⟩ root
    refine (contains_iff_of_relative root hkind).2 ⟨.inr ?_, ?_⟩
    · rw [names_route_globalDirectory, List.length_append]
      exact Nat.le_add_right_of_le hclimb
    · rwa [names_route_globalDirectory, List.take_append_of_le_length hclimb]

/-- What the kind of a package is to leave alone: whatever it is, the manifest is in the directory.
-/
def KeepsManifestsInside : Prop :=
  ∀ (root : Path) (resType : String), (globalDirectory root).Contains (manifestPath root resType)

/-- A kind that starts at the root is enough to lead elsewhere. -/
theorem not_keepsManifestsInside : ¬ KeepsManifestsInside := by
  intro h
  have hkind : (Path.ofText "/etc").isAbsolute = true := by decide +kernel
  have hinside := (contains_iff_of_absolute (Path.ofText "/opt/pkg") hkind).1 (h _ "/etc")
  exact absurd hinside.2 (by decide +kernel)

/-- An installation looks at no file but the manifest. -/
theorem install_congr {σ : Type} {source : PackageSource} {files files' : Files}
    {backend : Backend σ} {args : HookArgs}
    (h : ∀ t, target source args = .ok (.inr t) →
      files.isRegular? t.manifest = files'.isRegular? t.manifest ∧
        files.read t.manifest = files'.read t.manifest) :
    install source files backend args = install source files' backend args := by
  unfold install
  cases htarget : target source args with
  | error e => rfl
  | ok found =>
    cases found with
    | inl type => rfl
    | inr t =>
      obtain ⟨hregular, hread⟩ := h t htarget
      simp only [Manifest.registerFile, Manifest.load, hregular, hread]

/-- **Which manifests are in the directory of their package.**  A kind that starts at the root leads
to the same manifest from every package; it is in the directory of a package only if that starts at
the root as well and the kind has all names of the way there in front.  Any other kind leads on from
the directory, and the manifest stays inside exactly if the kind climbs no further than the path
has levels, unless the path starts at the root, and ends on the levels that it has climbed.  So a
kind keeps the manifests of all packages inside exactly if it does not start at the root and at most
leaves the two levels that all have, to enter them again; every kind without two dots does so that
does not start at the root.  Installing a package looks at the manifest and at no other file. -/
theorem manifest_inside_iff (resType : String) :
    let kind := Path.ofText resType
    (kind.isAbsolute = true →
      ∀ root, manifestPath root resType = kind.join (.ofText manifestFile)) ∧
    (∀ root : Path,
      let directory := globalDirectory root
      directory.Contains (manifestPath root resType) ↔
        if kind.isAbsolute then
          root.isAbsolute = true ∧ directory.route.names <:+ kind.route.names
        else
          (root.isAbsolute = true ∨ kind.route.climb ≤ directory.route.names.length) ∧
            directory.route.names.take kind.route.climb <:+ kind.route.names) ∧
    ((∀ root, (globalDirectory root).Contains (manifestPath root resType)) ↔
      kind.isAbsolute = false ∧ kind.route.climb ≤ globalNames.length ∧
        globalNames.take kind.route.climb <:+ kind.route.names) ∧
    (kind.isAbsolute = false → Path.up ∉ kind.names →
      ∀ root, (globalDirectory root).Contains (manifestPath root resType)) ∧
    ∀ (σ : Type) (source : PackageSource) (files files' : Files) (backend : Backend σ)
      (args : HookArgs) (root : Path) (resVersion : String),
      source args.pkgId = .ok ⟨.ok packageType, .ok root, .ok resType, .ok resVersion⟩ →
        files.isRegular? (manifestPath root resType) =
          files'.isRegular? (manifestPath root resType) →
        files.read (manifestPath root resType) = files'.read (manifestPath root resType) →
        install source files backend args = install source files' backend args := by
  intro kind
  refine ⟨fun hkind root => manifestPath_of_isAbsolute root hkind,
    fun root => contains_iff root resType, forall_contains_iff resType,
    fun hkind hup => (forall_contains_iff resType).2 ⟨hkind, ?_⟩, ?_⟩
  · have hclimb : kind.route.climb = 0 := by
      rw [Path.route, hkind, Path.Route.climb_follow_of_not_mem hup]
    rw [hclimb]
    exact ⟨Nat.zero_le _, List.nil_suffix⟩
  · intro σ source files files' backend args root resVersion hsource hregular hread
    refine install_congr fun t htarget => ?_
    rw [target, hsource] at htarget
    cases htarget
    exact ⟨hregular, hread⟩

end Installer
end ModelRegistry
