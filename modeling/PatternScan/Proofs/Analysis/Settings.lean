import PatternScan.Analysis.RecordResult
import PatternScan.Proofs.Highlight.HandedOut
import PatternScan.Proofs.Script.Families

/-!
# Settings that do not interfere

Each setting acts on one part of a record's result. Reading sequence roles or not changes nothing
but the sequence, reading plot roles or not nothing but the plot item, and the palette nothing but
the colours of segments whose groups declare none. How often a worker reports and how often a
growing source is looked at have no part in the analysis.
-/

namespace PatternScan.Analysis

open Script (PatternScript Annotation)

def RecordResult.withoutSequence (r : RecordResult) : RecordResult := { r with sequence := none }

def RecordResult.withoutPlot (r : RecordResult) : RecordResult := { r with plot := none }

/-- The result without the colours that are handed out from the palette. -/
def RecordResult.withoutPalette (r : RecordResult) : RecordResult :=
  { r with highlighting := r.highlighting.map FieldHighlight.withoutPalette }

namespace Context

variable {pattern : CompiledPattern} {settings settings' : Settings} {record : Record}
  {ms : List Match}

/-! ## What a context takes from its settings -/

theorem color?_ofPattern (pattern : CompiledPattern) (settings settings' : Settings) :
    (ofPattern pattern settings).script.color? = (ofPattern pattern settings').script.color? :=
  PatternScript.color?_congr
    (PatternScript.map_annotations_ofNames Annotation.color Annotation.color_ofName
      pattern.groupNames)

/-- The sequence is the same where sequence roles are read under both settings or under neither. -/
theorem sequence_resultOf (h : settings.sequence = settings'.sequence) :
    ((ofPattern pattern settings).resultOf record ms).sequence =
      ((ofPattern pattern settings').resultOf record ms).sequence := by
  have hscript :
      (ofPattern pattern settings).script.annotations.map Annotation.sequence =
        (ofPattern pattern settings').script.annotations.map Annotation.sequence := by
    refine PatternScript.map_annotations_ofNames Annotation.sequence ?_ pattern.groupNames
    exact Annotation.sequence_ofName h
  have hactive : (ofPattern pattern settings).sequenceActive =
      (ofPattern pattern settings').sequenceActive := by
    change (_ && PatternScript.hasSequenceRole (ofPattern pattern settings).script &&
        (PatternScript.sequenceIssues (ofPattern pattern settings).script).isEmpty) =
      (_ && PatternScript.hasSequenceRole (ofPattern pattern settings').script &&
        (PatternScript.sequenceIssues (ofPattern pattern settings').script).isEmpty)
    rw [h, PatternScript.hasSequenceRole_congr hscript, PatternScript.sequenceIssues_congr hscript]
  rw [resultOf, resultOf, hactive, Script.extractSequence_congr hscript]

/-- The plot item is the same where plot roles are read under both settings or under neither. -/
theorem plot_resultOf_congr (h : settings.plot = settings'.plot) :
    ((ofPattern pattern settings).resultOf record ms).plot =
      ((ofPattern pattern settings').resultOf record ms).plot := by
  have hscript :
      (ofPattern pattern settings).script.annotations.map Annotation.plot =
        (ofPattern pattern settings').script.annotations.map Annotation.plot := by
    refine PatternScript.map_annotations_ofNames Annotation.plot ?_ pattern.groupNames
    exact Annotation.plot_ofName h
  have hschema : (ofPattern pattern settings).script.plotSchema =
      (ofPattern pattern settings').script.plotSchema :=
    Script.PlotSchema.ofAnnotations_congr hscript
  have hactive : (ofPattern pattern settings).plotActive =
      (ofPattern pattern settings').plotActive := by
    change (_ && PatternScript.hasPlotRole (ofPattern pattern settings).script &&
        (ofPattern pattern settings).script.plotSchema.isConsistent) =
      (_ && PatternScript.hasPlotRole (ofPattern pattern settings').script &&
        (ofPattern pattern settings').script.plotSchema.isConsistent)
    rw [h, PatternScript.hasPlotRole_congr hscript, hschema]
  rw [resultOf, resultOf, hactive, Script.extractPlot_congr hscript hschema]

theorem highlighting_resultOf (h : settings.palette = settings'.palette) :
    ((ofPattern pattern settings).resultOf record ms).highlighting =
      ((ofPattern pattern settings').resultOf record ms).highlighting := by
  rw [resultOf, resultOf, color?_ofPattern pattern settings settings', ofPattern, ofPattern, h]

/-! ## Changing one setting -/

theorem withoutSequence_resultOf (hpalette : settings.palette = settings'.palette)
    (hplot : settings.plot = settings'.plot) :
    ((ofPattern pattern settings).resultOf record ms).withoutSequence =
      ((ofPattern pattern settings').resultOf record ms).withoutSequence := by
  rw [RecordResult.withoutSequence, RecordResult.withoutSequence, plot_resultOf_congr hplot,
    highlighting_resultOf hpalette]
  rfl

theorem withoutPlot_resultOf (hpalette : settings.palette = settings'.palette)
    (hsequence : settings.sequence = settings'.sequence) :
    ((ofPattern pattern settings).resultOf record ms).withoutPlot =
      ((ofPattern pattern settings').resultOf record ms).withoutPlot := by
  rw [RecordResult.withoutPlot, RecordResult.withoutPlot, sequence_resultOf hsequence,
    highlighting_resultOf hpalette]
  rfl

theorem withoutPalette_resultOf (hsequence : settings.sequence = settings'.sequence)
    (hplot : settings.plot = settings'.plot) :
    ((ofPattern pattern settings).resultOf record ms).withoutPalette =
      ((ofPattern pattern settings').resultOf record ms).withoutPalette := by
  have hhighlighting :
      ((ofPattern pattern settings).resultOf record ms).highlighting.map
          FieldHighlight.withoutPalette =
        ((ofPattern pattern settings').resultOf record ms).highlighting.map
          FieldHighlight.withoutPalette := by
    rw [resultOf, resultOf, color?_ofPattern pattern settings settings']
    exact map_highlightFields ..
  rw [RecordResult.withoutPalette, RecordResult.withoutPalette, hhighlighting,
    sequence_resultOf hsequence, plot_resultOf_congr hplot]
  rfl

/-- What makes all results of two contexts of a pattern alike makes its analyses alike, of which
each has a result where the other has one. -/
theorem map_analyze?_congr {f : RecordResult → RecordResult}
    (h : ∀ ms, f ((ofPattern pattern settings).resultOf record ms) =
      f ((ofPattern pattern settings').resultOf record ms)) :
    ((ofPattern pattern settings).analyze? record).map f =
      ((ofPattern pattern settings').analyze? record).map f := by
  rw [analyze?, analyze?, Option.map_map, Option.map_map]
  exact congrArg (Option.map · (pattern.find? record.text)) (funext h)

/-- Settings that differ in one thing let a pattern match the same records, with the same results
but for that thing: for the sequence, for the plot item, or for the colours of segments whose
groups declare none. The chunk size and the poll interval make no difference. -/
theorem settings_do_not_interfere (pattern : CompiledPattern) (settings : Settings)
    (record : Record) :
    (∀ sequence, ((ofPattern pattern { settings with sequence }).analyze? record).map
        RecordResult.withoutSequence =
      ((ofPattern pattern settings).analyze? record).map RecordResult.withoutSequence) ∧
    (∀ plot, ((ofPattern pattern { settings with plot }).analyze? record).map
        RecordResult.withoutPlot =
      ((ofPattern pattern settings).analyze? record).map RecordResult.withoutPlot) ∧
    (∀ palette, ((ofPattern pattern { settings with palette }).analyze? record).map
        RecordResult.withoutPalette =
      ((ofPattern pattern settings).analyze? record).map RecordResult.withoutPalette) ∧
    ∀ chunkSize pollInterval,
      (ofPattern pattern { settings with chunkSize, pollInterval }).analyze? record =
        (ofPattern pattern settings).analyze? record :=
  ⟨fun _ => map_analyze?_congr fun _ => withoutSequence_resultOf rfl rfl,
    fun _ => map_analyze?_congr fun _ => withoutPlot_resultOf rfl rfl,
    fun _ => map_analyze?_congr fun _ => withoutPalette_resultOf rfl rfl, fun _ _ => rfl⟩

end Context

end PatternScan.Analysis
