/-!
The tokens of a YAML text.
-/
namespace OpticalTestbed.Yaml

inductive Token where
  /-- Three dashes at the beginning of a line. -/
  | documentStart
  /-- Three dots at the beginning of a line. -/
  | documentEnd
  /-- Indentation that begins a list. -/
  | blockList
  /-- Indentation that begins a map. -/
  | blockMap
  /-- The end of the indentation that began a list or a map. -/
  | blockEnd
  | dash
  /-- Stands before every key: before one with a question mark, and before one that only its colon
  tells. -/
  | key
  | colon
  | openList
  | closeList
  | openMap
  | closeMap
  | comma
  /-- A text; `plain` tells that it was written without quotes. -/
  | text (content : String) (plain : Bool)
  deriving DecidableEq

end OpticalTestbed.Yaml
