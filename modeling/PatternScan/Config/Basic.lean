import PatternScan.Analysis.RecordResult
import PatternScan.ScanError

/-!
# Configuration

The configuration has a section for colours, one for the scan and one for sources. A
request takes over what it needs when it is submitted.
-/

namespace PatternScan

/-- The colours handed out to groups. -/
structure HighlightingSection where
  gradientFrom : Color
  gradientTo : Color
  numberOfColors : Nat
  /-- One colour takes the place of the gradient. -/
  monoEnabled : Bool
  monoColor : Color
  deriving DecidableEq, Repr, Inhabited

/-- Workers and items. -/
structure AnalysisSection where
  workerCount : Nat
  maxWorkers : Nat
  chunkSize : Nat
  /-- Milliseconds between two looks at a growing source. -/
  pollInterval : Nat
  sequence : Bool
  plot : Bool
  deriving DecidableEq, Repr, Inhabited

/-- Sources of records. -/
structure SourceSection where
  cacheCapacity : Nat
  /-- The text between the parts of a value from several fields. -/
  fieldSeparator : String
  deriving DecidableEq, Repr, Inhabited

/-- A configuration. -/
structure Config where
  highlighting : HighlightingSection
  analysis : AnalysisSection
  source : SourceSection
  deriving DecidableEq, Repr, Inhabited

/-- The colours used unless others are set. -/
def HighlightingSection.standard : HighlightingSection :=
  ⟨⟨255, 255, 0⟩, ⟨0, 255, 255⟩, 3, false, ⟨150, 150, 0⟩⟩

/-- The settings of the scan used unless others are set: one worker for each core. -/
def AnalysisSection.standardOn (cores : Nat) : AnalysisSection :=
  ⟨cores, cores, 4000, 50, true, true⟩

/-- The settings of sources used unless others are set. -/
def SourceSection.standard : SourceSection := ⟨10000, " "⟩

namespace Config

/-- The configuration used where none is set. -/
def standardOn (cores : Nat) : Config := ⟨.standard, .standardOn cores, .standard⟩

/-- The configuration used where none is set, on one core. -/
def standard : Config := standardOn 1

/-- The first setting that is zero and must not be. -/
def fault? (c : Config) : Option ConfigFault :=
  if c.analysis.chunkSize = 0 then some (.zero "analysis.chunk_size")
  else if c.analysis.maxWorkers = 0 then some (.zero "analysis.max_workers")
  else if c.source.cacheCapacity = 0 then some (.zero "source.cache_capacity")
  else none

/-- What is used where nothing is set has no fault, on any machine. -/
theorem fault?_standardOn {cores : Nat} (hcores : 0 < cores) :
    (standardOn cores).fault? = none := by
  simp [fault?, standardOn, AnalysisSection.standardOn, SourceSection.standard, Nat.ne_of_gt hcores]

/-- The palette: one colour or a gradient. -/
def palette (c : Config) : Palette :=
  let h := c.highlighting
  if h.monoEnabled then .mono h.monoColor
  else .gradient h.gradientFrom h.gradientTo h.numberOfColors

/-- What a request takes over. -/
def requestSettings (c : Config) : Analysis.Settings :=
  ⟨c.palette, max c.analysis.chunkSize 1, c.analysis.pollInterval, c.analysis.sequence,
    c.analysis.plot⟩

/-- The number of workers asked for, or the configured one, within the limit; at least one. -/
def effectiveWorkers (c : Config) (requested : Option Nat) : Nat :=
  min (max (requested.getD c.analysis.workerCount) 1) (max c.analysis.maxWorkers 1)

end Config

end PatternScan
