/-! # YAML tokens

The pieces that YAML text is made of. Where a collection is written by indentation alone, its
start and end are tokens too. -/
namespace RuleCatalog.Yaml

/-- A tag by its handle and suffix, such as `!!` and `str`. -/
structure Tag where
  handle : String
  suffix : String
  deriving DecidableEq, Repr

structure Scalar where
  text : String
  isPlain : Bool
  deriving DecidableEq, Repr

/-- What a node without any content holds. -/
def Scalar.null : Scalar := ⟨"~", true⟩

inductive Token where
  | directive
  | documentStart | documentEnd
  | blockSequenceStart | blockMappingStart | blockEnd
  | flowSequenceStart | flowSequenceEnd | flowMappingStart | flowMappingEnd
  | blockEntry | flowEntry
  | key | value
  | alias (name : String)
  | anchor (name : String)
  | tag (t : Tag)
  | scalar (s : Scalar)
  deriving DecidableEq, Repr

end RuleCatalog.Yaml
