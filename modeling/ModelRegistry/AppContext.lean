import ModelRegistry.Json.Printer

/-!
# Where a registration comes from

The models and resources of a package are tagged with a text that names the package, the app and the
kind and version of the resource package.  The registry keeps the text and does not look into it.
-/

namespace ModelRegistry

/-- The package and the app that a registration comes from. -/
structure AppContext where
  pkgId : String
  /-- Empty when no app is known. -/
  appId : String
  resType : String
  resVersion : String
  deriving DecidableEq, Repr

namespace AppContext

/-- The context of a package, with or without an app. -/
def of (pkgId : String) (appId : Option String) (resType resVersion : String) : AppContext :=
  { pkgId, appId := appId.getD "", resType, resVersion }

def toJson (c : AppContext) : Json :=
  .object
    [("is_rpk", .text "T"), ("pkg_id", .text c.pkgId), ("app_id", .text c.appId),
      ("res_type", .text c.resType), ("res_version", .text c.resVersion)]

/-- The tag, one member a line. -/
def appInfo (c : AppContext) : String := c.toJson.pretty

end AppContext
end ModelRegistry
