import Landscape.Host.FilePath

/-!
# The catalog

The names under which the library offers its parts, and for each part the place where it is defined
(`Landscape.Catalog.entry?`). The catalog also tells where the library itself is.
-/

namespace Landscape.Catalog

/-- What stands under a name. -/
inductive Entry where
  | text (s : String)
  | names (xs : List String)
  /-- A part and its place. -/
  | part (place name : String)
  /-- Something that is no part and has no place; these are the words for that. -/
  | placeless (reason : String)
  deriving DecidableEq, Repr

/-- The place of the parts of models. -/
def modelPlace : String := "msviz.core.model.models"

/-- The place of settings. -/
def settingsPlace : String := "msviz.core.settings"

/-- The place of a part of the diagrams. -/
def diagramPlace (part : String) : String :=
  "msviz.core.diagrams." ++ part

/-- The parts that are offered, in order, with their places. -/
def parts : List (String × String) :=
  ["System", "SystemFragment", "Team", "Microservice", "Interface", "Operation", "Parameter",
      "Contract"].map (·, modelPlace) ++
    [("SimpleDiagram", diagramPlace "simple"), ("UmlDiagram", diagramPlace "uml"),
      ("UmlDiagramType", diagramPlace "formats"), ("OutputFormat", diagramPlace "formats"),
      ("to_alias", diagramPlace "alias")]

/-- The version of the library. -/
def version : String := "0.1.0"

/-- What the library is, in a sentence. -/
def summary : String :=
  "msviz — graph and UML component diagrams for microservice landscapes."

/-- The name of the library. -/
def libraryName : String :=
  "msviz"

/-- What is said of something of a kind that lacks a field of a part. -/
def lacking (kind field : String) : Entry :=
  .placeless s!"'{kind}' object has no attribute '{field}'"

/-- What is said of a smaller library inside this one, which has no place of its own. -/
def sublibrary (name : String) : Entry :=
  .placeless s!"module '{libraryName}.{name}' has no attribute '__module__'"

/-- What else stands in the catalog. -/
def others : List (String × Entry) :=
  [("_IMPORT_MAP", lacking "dict" "__module__"), ("__dict__", lacking "dict" "__module__"),
    ("__builtins__", lacking "dict" "__module__"), ("__spec__", lacking "ModuleSpec" "__name__"),
    ("__loader__", lacking "SourceFileLoader" "__name__"), ("core", sublibrary "core"),
    ("__main__", sublibrary "__main__"), ("__class__", .part "builtins" "module"),
    ("__getattr__", .part libraryName "__getattr__")]

/-- **What stands under a name**, in a library that is installed in a directory. -/
def entry? (home : FilePath) (name : String) : Option Entry :=
  let place (s : String) := ((home.child libraryName).child s).toString
  match name with
  | "__version__" => some (.text version)
  | "__all__" => some (.names (parts.map (·.1)))
  | "__name__" | "__package__" => some (.text libraryName)
  | "__doc__" => some (.text summary)
  | "__path__" => some (.names [place ""])
  | "__file__" => some (.text (place "__init__.py"))
  | "__cached__" => some (.text (place "__pycache__/__init__.cpython-311.pyc"))
  | _ => ((parts.lookup name).map fun place => .part place name).or (others.lookup name)

/-- What is said of a name under which nothing stands. -/
def missing (name : String) : String :=
  s!"module 'msviz' has no attribute {name}"

end Landscape.Catalog
