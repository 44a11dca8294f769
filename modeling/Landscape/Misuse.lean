import Landscape.Value.Text

/-!
# Misuse

Who asks something of a thing that its kind cannot do, or names what is not there, misuses it
(`Landscape.Misuse`). Kinds are told apart by their names here: a value may stand where a thing is meant, and a
thing where a value is.
-/

namespace Landscape

/-- What is asked in vain. -/
inductive Misuse where
  /-- No thing has this name. -/
  | noThing (name : String)
  /-- There are no things of this kind. -/
  | noKind (name : String)
  /-- A mapping has no entry for a key. -/
  | noEntry (key : Value)
  /-- A value names no format. -/
  | noFormat (v : Value)
  /-- A value names no type of diagram. -/
  | noType (v : Value)
  /-- Things of this kind have no such field. -/
  | lacks (kind field : String)
  /-- A thing of this kind shows the field, but works it out itself. -/
  | noSetter (kind field : String)
  /-- The field of a thing that never changes. -/
  | frozen (field : String)
  /-- A kind as such has no such field. -/
  | kindLacks (kind field : String)
  /-- An ability does not take something of this name. -/
  | unexpected (ability name : String)
  /-- An ability gets something of this name twice. -/
  | repeated (ability name : String)
  /-- An ability lacks what has to be given to it. -/
  | missing (ability : String) (names : List String)
  /-- Things of this kind have no items. -/
  | notIterable (kind : String)
  /-- Nothing can be looked for in a thing of this kind. -/
  | notSearchable (kind : String)
  /-- Only a text can be looked for in a text. -/
  | notText (kind : String)
  /-- An ability that takes nothing is given something. -/
  | tooMany (ability : String)
  /-- Things of this kind do nothing. -/
  | notCallable (kind : String)
  /-- Things of this kind have no positions. -/
  | notSubscriptable (kind : String)
  /-- Things of this kind cannot be looked up. -/
  | notKey (kind : String)
  /-- Things of this kind are no paths. -/
  | notPath (kind : String)
  /-- Bytes were asked to do what only a text can. -/
  | bytesForText
  /-- Things of this kind are no positions. -/
  | notPosition (kind : String)
  /-- A position is beyond all lists. -/
  | hugePosition
  /-- Something is to be taken from an empty list. -/
  | emptyList
  /-- Something is to be taken from outside a list. -/
  | noPosition
  deriving Repr

namespace Misuse

/-- Some quoted names, of which the last is joined to the others by a word. -/
def joined (names : List String) : String :=
  match names.map quoted with
  | [] => ""
  | [x] => x
  | [x, y] => x ++ " and " ++ y
  | xs => ", ".intercalate xs.dropLast ++ ", and " ++ xs.getLast?.getD ""

/-- What is asked in vain, in words. -/
def message : Misuse → String
  | .noThing name | .noKind name => quoted name
  | .noEntry key => key.literal
  | .noFormat v => s!"{v.literal} is not a valid OutputFormat"
  | .noType v => s!"{v.literal} is not a valid UmlDiagramType"
  | .lacks kind field => s!"'{kind}' object has no attribute '{field}'"
  | .noSetter kind field => s!"property {quoted field} of {quoted kind} object has no setter"
  | .frozen field => s!"cannot assign to field {quoted field}"
  | .kindLacks kind field => s!"type object '{kind}' has no attribute '{field}'"
  | .unexpected ability name => s!"{ability}() got an unexpected keyword argument '{name}'"
  | .repeated ability name => s!"{ability}() got multiple values for argument '{name}'"
  | .missing ability names =>
    let noun := if names.length == 1 then "argument" else "arguments"
    s!"{ability}() missing {names.length} required positional {noun}: {joined names}"
  | .notIterable kind => s!"'{kind}' object is not iterable"
  | .notSearchable kind => s!"argument of type '{kind}' is not iterable"
  | .notText kind => s!"'in <string>' requires string as left operand, not {kind}"
  | .tooMany ability => s!"{ability}() takes 1 positional argument but 2 were given"
  | .notCallable kind => s!"'{kind}' object is not callable"
  | .notSubscriptable kind => s!"'{kind}' object is not subscriptable"
  | .notKey kind => s!"unhashable type: '{kind}'"
  | .notPath "bytes" =>
    "argument should be a str object or an os.PathLike object returning str, not <class 'bytes'>"
  | .notPath kind => s!"expected str, bytes or os.PathLike object, not {kind}"
  | .bytesForText => "a bytes-like object is required, not 'str'"
  | .notPosition kind => s!"'{kind}' object cannot be interpreted as an integer"
  | .hugePosition => "Python int too large to convert to C ssize_t"
  | .emptyList => "pop from empty list"
  | .noPosition => "pop index out of range"

end Misuse

end Landscape
