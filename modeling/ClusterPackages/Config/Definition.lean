import ClusterPackages.Catalog.Artifact
import ClusterPackages.Config.Platform
import ClusterPackages.Config.Schema
import ClusterPackages.Json.Read
import ClusterPackages.Template.Render
import ClusterPackages.Text.Case

namespace ClusterPackages

open Text

/-!
# Release definitions

Everything that is needed to render the files of one release.

* `Definition` — the release, its files, the user's configuration and the platform.
* `Definition.options` — the rendered options, then the user's values, then those of the platform.
* `Definition.mergedConfig` — the declared defaults with the options over them.
* `Definition.manifest`, `Definition.uninstall` — the rendered manifest and cleanup steps.
-/

/-- One release with the inputs of its configuration. -/
structure Definition where
  /-- The name of the package. -/
  name : String
  /-- The version. -/
  version : String
  /-- The release that holds the version's files. -/
  release : String
  /-- Whether the package is a framework. -/
  framework : Bool
  /-- The name under which the framework registers, if one is configured. -/
  frameworkName : Option String
  /-- The bytes of each file, empty when no layer supplies it. -/
  artifacts : ArtifactKind → Bytes
  /-- The configuration that the user asks for. -/
  userConfig : Json.Object
  /-- The values of the cluster. -/
  platform : Platform

/-- The text of a template file, rendered with the fields of `context`. -/
def Template.renderFile (kind : ArtifactKind) (source : String) (context : Entries Json) :
    Except Error String :=
  match Template.parse source with
  | .ok nodes => .ok (Template.render nodes (.obj context))
  | .error e => .error (.failed "parse template" kind.fileName (.template e))

namespace Definition

/-- The text of a file. -/
def text (d : Definition) (kind : ArtifactKind) : Except Error String :=
  match Utf8.text? (d.artifacts kind) with
  | some s => .ok s
  | none => .error (.failed "decode artifact" kind.fileName .malformed)

/-- Whether the files are there without which nothing can be installed. -/
def isValid (d : Definition) : Bool :=
  [ArtifactKind.config, .manifest, .package].all fun kind => !(d.artifacts kind).isEmpty

/-! ### Configuration -/

/-- The defaults that the schema declares. -/
def defaults (d : Definition) : Except Error (Entries Json) :=
  (Schema.parse (d.artifacts .config)).map Schema.defaults

/-- The object that the options file renders to, with the platform's values as its context. -/
def renderedOptions (d : Definition) : Except Error Json.Object := do
  let source ← d.text .options
  let rendered ← Template.renderFile .options source d.platform.values.fields
  match Json.parseObject? rendered with
  | some options => .ok options
  | none => .error (.failed "parse options" ArtifactKind.options.fileName .malformed)

/-- The rendered options with the user's values over them and the platform's on top.  Without an
    options file there are none, and neither user nor platform contribute. -/
def options (d : Definition) : Except Error (Entries Json) :=
  if (d.artifacts .options).isEmpty then .ok []
  else d.renderedOptions.map fun rendered =>
    Config.merge (Config.merge rendered.fields d.userConfig.fields) d.platform.values.fields

/-- The declared defaults with the options over them. -/
def mergedConfig (d : Definition) : Except Error (Entries Json) := do
  let defaults ← d.defaults
  let options ← d.options
  .ok (Config.merge defaults options)

/-- The framework name that a configuration sets below the name of the package, unless it is
    empty. -/
def configuredFrameworkName (d : Definition) (config : Entries Json) : Option String :=
  (Config.lookup? d.name config).bind fun settings =>
    ((settings.get? "framework-name").bind Json.str?).filter fun name => !name.isEmpty

/-- Where a configuration says how the app is reached from outside. -/
def loadBalancerPath : String := "mantl.load-balancer"

/-- How the app is reached from outside, in small letters; `off` when nothing is said. -/
def loadBalancer (d : Definition) : Except Error String :=
  d.mergedConfig.map fun config =>
    ((Config.lookupText? loadBalancerPath config).map lower).getD "off"

/-! ### Rendered files -/

/-- A file rendered with the merged configuration. -/
def render (d : Definition) (kind : ArtifactKind) : Except Error String := do
  let config ← d.mergedConfig
  let source ← d.text kind
  Template.renderFile kind source config

/-- The rendered manifest of the app. -/
def manifest (d : Definition) : Except Error String := d.render .manifest

/-- The rendered steps that follow an uninstallation. -/
def uninstall (d : Definition) : Except Error String := d.render .uninstall

end Definition

end ClusterPackages
