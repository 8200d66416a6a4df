import ClusterPackages.Cluster.App
import ClusterPackages.Config.Definition
import ClusterPackages.Text.Base64

namespace ClusterPackages

open Text

/-!
# Provenance

An installed app carries labels that say which release it came from and what has to be done when
it is removed.

* `App.attachProvenance` — sets the labels.
* `App.frameworkName?` — the framework that an app registers.
* `App.isPackage`, `App.isOfPackage`, `App.hasId` — how apps are selected.
* `normalizeId` — the id in the form of the scheduler, with a slash in front.
-/

namespace Label

/-- The label with the name of the package. -/
def packageName : String := "MANTL_PACKAGE_NAME"

/-- The label with the version. -/
def packageVersion : String := "MANTL_PACKAGE_VERSION"

/-- The label with the release. -/
def packageRelease : String := "MANTL_PACKAGE_INDEX"

/-- The label that says whether the package is a framework. -/
def isFramework : String := "MANTL_PACKAGE_IS_FRAMEWORK"

/-- The label with the name of the framework. -/
def frameworkName : String := "MANTL_PACKAGE_FRAMEWORK_NAME"

/-- The label with the encoded cleanup steps. -/
def cleanup : String := "MANTL_PACKAGE_UNINSTALL"

/-- The label under which some manifests give the name of the framework. -/
def foreignFrameworkName : String := "DCOS_PACKAGE_FRAMEWORK_NAME"

/-- The label that says whether the app is reached from outside. -/
def exposed : String := "traefik.enable"

end Label

/-- A truth value as a label. -/
def boolLabel (b : Bool) : String := if b then "true" else "false"

/-- The id in the form of the scheduler: without blanks around it and with a slash in front. -/
def normalizeId (id : String) : String :=
  if startsWith "/" (trim id) then trim id else "/" ++ trim id

namespace App

/-- The app with a label. -/
def withLabel (a : App) (name value : String) : App :=
  { a with labels := a.labels.insert name value }

/-- The app with a label, if there is a value for it. -/
def withLabel? (a : App) (name : String) : Option String → App
  | some value => a.withLabel name value
  | none => a

/-- The app with the labels that say which release it came from. -/
def withRelease (a : App) (d : Definition) (cleanup : String) : App :=
  ((((a.withLabel Label.packageName d.name).withLabel Label.packageVersion d.version).withLabel
    Label.packageRelease d.release).withLabel Label.isFramework (boolLabel d.framework)).withLabel
    Label.cleanup (Base64.encode (Utf8.encode cleanup))

/-- The app with all labels of its provenance.  A framework name in the manifest wins over the
    configured one. -/
def attachProvenance (a : App) (d : Definition) : Except Error App := do
  let cleanup ← d.uninstall
  let released := (a.withRelease d cleanup).withLabel? Label.frameworkName d.frameworkName
  let named := released.withLabel? Label.frameworkName (released.label? Label.foreignFrameworkName)
  match d.loadBalancer with
  | .ok exposure => .ok (named.withLabel Label.exposed (boolLabel (exposure == "external")))
  | .error _ => .ok named

/-- The name of the framework that the app registers; an empty label does not count. -/
def frameworkName? (a : App) : Option String :=
  [Label.frameworkName, Label.foreignFrameworkName].findSome? fun name =>
    (a.label? name).filter fun value => !value.isEmpty

/-- Whether the app came from the catalog. -/
def isPackage (a : App) : Bool := a.labels.contains Label.packageName

/-- Whether the app came from the package with the given name. -/
def isOfPackage (name : String) (a : App) : Bool := a.label? Label.packageName == some name

/-- Whether the app has the given id, with or without its slash. -/
def hasId (id : String) (a : App) : Bool := a.id == normalizeId id

end App

end ClusterPackages
