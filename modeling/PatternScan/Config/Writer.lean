import PatternScan.Config.Basic
import PatternScan.Toml.Writer

/-!
# Writing a configuration

A configuration is written section by section with every setting in its order, colours
over several lines. Numbers beyond the greatest integer of the format cannot be written.
-/

namespace PatternScan.Config

/-- A line with a setting. -/
def settingLine (name value : String) : String := name ++ " = " ++ value ++ "\n"

/-- A number, if the format has it. -/
def numberText? (n : Nat) : Option String :=
  if n ≤ Toml.maxInteger then some (toString n) else none

/-- A truth value. -/
def booleanText (b : Bool) : String := if b then "true" else "false"

/-- A colour, one channel on each line. -/
def colorText (c : Color) : String :=
  let channel (n : UInt8) : String := "    " ++ toString n.toNat ++ ",\n"
  "[\n" ++ channel c.red ++ channel c.green ++ channel c.blue ++ "]"

/-- The section on colours. -/
def highlightingText? (h : HighlightingSection) : Option String := do
  let number ← numberText? h.numberOfColors
  return "[highlighting]\n" ++ settingLine "gradient_from" (colorText h.gradientFrom) ++
    settingLine "gradient_to" (colorText h.gradientTo) ++
    settingLine "number_of_colors" number ++
    settingLine "mono_color_enabled" (booleanText h.monoEnabled) ++
    settingLine "mono_color" (colorText h.monoColor)

/-- The section on the scan. -/
def analysisText? (a : AnalysisSection) : Option String := do
  let workers ← numberText? a.workerCount
  let limit ← numberText? a.maxWorkers
  let chunk ← numberText? a.chunkSize
  let poll ← numberText? a.pollInterval
  return "[analysis]\n" ++ settingLine "worker_count" workers ++
    settingLine "max_workers" limit ++ settingLine "chunk_size" chunk ++
    settingLine "continuous_poll_interval_ms" poll ++
    settingLine "sequence_diagram_enabled" (booleanText a.sequence) ++
    settingLine "plot_enabled" (booleanText a.plot)

/-- The section on sources. -/
def sourceText? (s : SourceSection) : Option String := do
  let capacity ← numberText? s.cacheCapacity
  return "[source]\n" ++ settingLine "cache_capacity" capacity ++
    settingLine "field_separator" (Toml.writeText s.fieldSeparator)

/-- The configuration as a text. -/
def render (c : Config) : Except ScanError String :=
  let sections := do
    let highlighting ← highlightingText? c.highlighting
    let analysis ← analysisText? c.analysis
    let source ← sourceText? c.source
    return highlighting ++ "\n" ++ analysis ++ "\n" ++ source
  match sections with
  | some text => .ok text
  | none => .error .configNumber

end PatternScan.Config
