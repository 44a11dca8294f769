import Landscape.Calendar
import Landscape.Number.Whole
import Landscape.Text.Utf8

/-!
# Why a text is no document

A text can break the rules of YAML in many ways (`Landscape.Yaml.Fault`). Most faults are found while the
text is taken apart, each at a place (`Landscape.Yaml.Flaw`). Some texts, though, are well formed and cannot be read
all the same: a number names no character or has too many digits, a scalar says by its tag that it is something
it is not, or the collections lie deeper inside one another than there is room for. `Fault.isSyntax` tells the two
apart.
-/

namespace Landscape.Yaml

/-- Why a text is no YAML document, or cannot be read as one. -/
inductive Fault where
  /-- The bytes of the text are no characters here. -/
  | undecodable (f : Utf8.Fault)
  /-- A character that no YAML text may hold. -/
  | forbiddenCharacter (c : Char)
  /-- A character that begins no token. -/
  | noToken (c : Char)
  /-- A key that has to have a value on its line, and has none. -/
  | keyWithoutValue
  /-- A dash where no sequence entry may begin. -/
  | misplacedEntry
  /-- A question mark where no key may begin. -/
  | misplacedKey
  /-- A colon where no value may begin. -/
  | misplacedValue
  /-- A directive that cannot be read. -/
  | badDirective
  /-- An anchor or alias that cannot be read. -/
  | badAnchor
  /-- A tag that cannot be read. -/
  | badTag
  /-- The line that begins a block scalar cannot be read. -/
  | badBlockHeader
  /-- An escape that does not exist. -/
  | badEscape
  /-- A quoted scalar that ends with the text or at a document boundary. -/
  | unfinishedQuote
  /-- Something else stands where the structure needs a token. -/
  | expected (what : String)
  /-- A tag handle that no directive declares. -/
  | undefinedHandle (handle : String)
  /-- An alias without an anchor before it. -/
  | undefinedAlias (name : String)
  /-- An anchor that was used before. -/
  | duplicateAnchor (name : String)
  /-- More than one document. -/
  | severalDocuments
  /-- A tag that has no meaning here. -/
  | unknownTag
  /-- A tag of one structure on another. -/
  | wrongStructure
  /-- A key that is itself a collection. -/
  | unhashableKey
  /-- A merge with something that is no mapping. -/
  | badMerge
  /-- Binary data that cannot be decoded. -/
  | badBinary
  /-- The collections lie deeper inside one another than there is room for. -/
  | tooDeep
  /-- The escape of a number that is no code point. -/
  | noCodePoint (n : Nat)
  /-- A number without any character. -/
  | emptyNumber
  /-- A text that is no whole number in a base. -/
  | notWhole (base : Nat) (text : List Char)
  /-- A whole number with more digits than are read. -/
  | tooManyDigits (count : Nat)
  /-- A text that is no double. -/
  | notDouble (text : List Char)
  /-- A word that is no truth value. -/
  | notBool (word : List Char)
  /-- A number in base sixty has so many groups that the first counts more than any double. -/
  | tooManyGroups
  /-- A text that is no timestamp. -/
  | notTimestamp
  /-- A mapping that has to be a timestamp, whatever its default value is. -/
  | mappingAsTimestamp
  /-- A timestamp with a part out of its range. -/
  | calendar (f : CalendarFault)
  deriving Repr

/-- How much of the literal of a text is shown that is no whole number. -/
def shownOfNumber : Nat := 200

namespace Fault

/-- Whether the text breaks the rules of YAML; otherwise a scalar is not what its tag says, or there is no room. -/
def isSyntax : Fault → Bool
  | .undecodable _ | .tooDeep | .noCodePoint _ | .emptyNumber | .notWhole .. | .tooManyDigits _ | .notDouble _
  | .notBool _ | .tooManyGroups | .notTimestamp | .mappingAsTimestamp | .calendar _ => false
  | _ => true

/-- What is wrong, in words. -/
def message : Fault → String
  | .undecodable f => f.message
  | .forbiddenCharacter c => "special characters are not allowed, found " ++ quoted c.toString
  | .noToken c => "found character " ++ quoted c.toString ++ " that cannot start any token"
  | .keyWithoutValue => "could not find expected ':' after a simple key"
  | .misplacedEntry => "sequence entries are not allowed here"
  | .misplacedKey => "mapping keys are not allowed here"
  | .misplacedValue => "mapping values are not allowed here"
  | .badDirective => "could not read a directive"
  | .badAnchor => "could not read an anchor or alias"
  | .badTag => "could not read a tag"
  | .badBlockHeader => "could not read the indicators of a block scalar"
  | .badEscape => "found unknown escape character"
  | .unfinishedQuote => "found unexpected end of a quoted scalar"
  | .expected what => "expected " ++ what
  | .undefinedHandle handle => "found undefined tag handle " ++ quoted handle
  | .undefinedAlias name => "found undefined alias " ++ quoted name
  | .duplicateAnchor name => "found duplicate anchor " ++ quoted name
  | .severalDocuments => "expected a single document in the stream"
  | .unknownTag => "could not determine a constructor for the tag"
  | .wrongStructure => "expected another structure for the tag"
  | .unhashableKey => "found unhashable key"
  | .badMerge => "expected a mapping or list of mappings for merging"
  | .badBinary => "failed to decode base64 data"
  | .tooDeep => "maximum recursion depth exceeded"
  | .noCodePoint n =>
    if n < Nat.pow 2 31 then "chr() arg not in range(0x110000)"
    else "Python int too large to convert to C int"
  | .emptyNumber => "string index out of range"
  | .notWhole base text =>
    "invalid literal for int() with base " ++ toString base ++ ": " ++
      String.ofList ((textLiteral text).take shownOfNumber)
  | .tooManyDigits count =>
    "Exceeds the limit (" ++ toString mostWholeDigits ++ " digits) for integer string conversion: " ++
      "value has " ++ toString count ++
      " digits; use sys.set_int_max_str_digits() to increase the limit"
  | .notDouble text => "could not convert string to float: " ++ String.ofList (textLiteral text)
  | .notBool word => String.ofList (textLiteral word)
  | .tooManyGroups => "int too large to convert to float"
  | .notTimestamp => "'NoneType' object has no attribute 'groupdict'"
  | .mappingAsTimestamp => "expected string or bytes-like object, got 'list'"
  | .calendar f => f.message

end Fault

/-- A fault with its place: how many characters come before it. -/
structure Flaw where
  index : Nat
  fault : Fault
  deriving Repr

/-- What reading a part of a text gives, or the flaw in it. -/
abbrev Reading := Except Flaw

end Landscape.Yaml
