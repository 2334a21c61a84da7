import MockBuilders.Yaml.Leaf

/-! The tokens of YAML text. Collections have a start and an end among them however they are
written. -/
namespace MockBuilders.Yaml

inductive Token where
  | versionDirective
  | tagDirective (handle start : String)
  | documentStart
  | documentEnd
  | blockSequenceStart
  | blockMappingStart
  | blockEnd
  | blockEntry
  | flowSequenceStart
  | flowSequenceEnd
  | flowMappingStart
  | flowMappingEnd
  | flowEntry
  | key
  | value
  | anchor (name : String)
  /-- A name that stands for the value that it has been given to. -/
  | reference (name : String)
  | tag (handle rest : String)
  | scalar (leaf : Leaf)
  deriving DecidableEq, Repr

end MockBuilders.Yaml
