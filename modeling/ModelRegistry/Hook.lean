import ModelRegistry.Text.Blank

/-!
# Hooks

The package manager calls a plugin at eight moments in the life of a package.  A hook is known by
its name in any case.
-/

namespace ModelRegistry

/-- A moment in the life of a package. -/
inductive Hook
  | install
  | uninstall
  | upgrade
  | recoverInstall
  | recoverUpgrade
  | recoverUninstall
  | clean
  | undo
  deriving DecidableEq, Repr

namespace Hook

def all : List Hook :=
  [install, uninstall, upgrade, recoverInstall, recoverUpgrade, recoverUninstall, clean, undo]

def name : Hook → String
  | install => "INSTALL"
  | uninstall => "UNINSTALL"
  | upgrade => "UPGRADE"
  | recoverInstall => "RECOVERINSTALL"
  | recoverUpgrade => "RECOVERUPGRADE"
  | recoverUninstall => "RECOVERUNINSTALL"
  | clean => "CLEAN"
  | undo => "UNDO"

/-- The hook of a name. -/
def ofName? (name : String) : Option Hook := all.find? fun h => Text.sameLetters h.name name

/-- The complaint about a name that no hook has. -/
def unknown (name : String) : String := "Unknown plugin hook '" ++ name ++ "'"

end Hook
end ModelRegistry
