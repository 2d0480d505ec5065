import PatternScan.Config.Basic
import PatternScan.Toml.Document

/-!
# Reading a configuration

Settings are looked up by name in the tables of a TOML document. What is missing has its
standard value, and what has no meaning is passed over. A setting of the wrong kind makes
the configuration unreadable. A section may also be an array that lists its settings in
order. A date or time in place of a section sets nothing.
-/

namespace PatternScan.Config

open Toml (Node Entries)

/-- The settings of a section, by name or in order. -/
inductive Section where
  | named (entries : Entries)
  | listed (items : List Node)
  deriving Repr

/-- A node as a section. -/
def Section.ofNode? : Node → Option Section
  | .table _ entries => some (.named entries)
  | .inline entries => some (.named entries)
  | .array items => some (.listed items)
  | .rows tables => some (.listed (tables.map (.table .headed)))
  | .moment => some (.named [])
  | _ => none

/-- The setting of a name, which has the given place in the section. -/
def Section.get? (s : Section) (place : Nat) (name : String) : Option Node :=
  match s with
  | .named entries => entries.get? name
  | .listed items => items[place]?

/-- A setting that is read by `read`, or its standard value where it is missing. -/
def Section.setting {α : Type} (s : Section) (read : Node → Option α) (place : Nat)
    (name : String) (standard : α) : Option α :=
  match s.get? place name with
  | some node => read node
  | none => some standard

/-- A number that is not negative. -/
def natural? : Node → Option Nat
  | .integer n => if 0 ≤ n then some n.toNat else none
  | _ => none

/-- A truth value. -/
def boolean? : Node → Option Bool
  | .boolean b => some b
  | _ => none

/-- A text. -/
def text? : Node → Option String
  | .text s => some s
  | _ => none

/-- A channel of a colour. -/
def channel? (node : Node) : Option UInt8 :=
  (natural? node).bind fun n => if n ≤ 255 then some (UInt8.ofNat n) else none

/-- A colour as an array of its channels. Further items are passed over. -/
def color? : Node → Option Color
  | .array (r :: g :: b :: _) => do return ⟨← channel? r, ← channel? g, ← channel? b⟩
  | _ => none

/-- The section on colours. -/
def highlighting? (s : Section) : Option HighlightingSection := do
  let d := HighlightingSection.standard
  return {
    gradientFrom := ← s.setting color? 0 "gradient_from" d.gradientFrom
    gradientTo := ← s.setting color? 1 "gradient_to" d.gradientTo
    numberOfColors := ← s.setting natural? 2 "number_of_colors" d.numberOfColors
    monoEnabled := ← s.setting boolean? 3 "mono_color_enabled" d.monoEnabled
    monoColor := ← s.setting color? 4 "mono_color" d.monoColor }

/-- The section on the scan. -/
def analysis? (cores : Nat) (s : Section) : Option AnalysisSection := do
  let d := AnalysisSection.standardOn cores
  return {
    workerCount := ← s.setting natural? 0 "worker_count" d.workerCount
    maxWorkers := ← s.setting natural? 1 "max_workers" d.maxWorkers
    chunkSize := ← s.setting natural? 2 "chunk_size" d.chunkSize
    pollInterval := ← s.setting natural? 3 "continuous_poll_interval_ms" d.pollInterval
    sequence := ← s.setting boolean? 4 "sequence_diagram_enabled" d.sequence
    plot := ← s.setting boolean? 5 "plot_enabled" d.plot }

/-- The section on sources. -/
def source? (s : Section) : Option SourceSection := do
  let d := SourceSection.standard
  return {
    cacheCapacity := ← s.setting natural? 0 "cache_capacity" d.cacheCapacity
    fieldSeparator := ← s.setting text? 1 "field_separator" d.fieldSeparator }

/-- The section of a name, or its standard value where there is none. -/
def section? {α : Type} (root : Entries) (read : Section → Option α) (name : String)
    (standard : α) : Option α :=
  match root.get? name with
  | some node => (Section.ofNode? node).bind read
  | none => some standard

/-- The configuration of the tables of a document. -/
def ofEntries? (cores : Nat) (root : Entries) : Option Config := do
  return {
    highlighting := ← section? root highlighting? "highlighting" .standard
    analysis := ← section? root (analysis? cores) "analysis" (.standardOn cores)
    source := ← section? root source? "source" .standard }

/-- The configuration that a text sets. -/
def ofText (cores : Nat) (text : String) : Except ScanError Config :=
  match (Toml.read? text).bind (ofEntries? cores) with
  | none => .error .configGrammar
  | some c =>
      match c.fault? with
      | some fault => .error (.config fault)
      | none => .ok c

theorem fault?_of_ofText {cores : Nat} {text : String} {c : Config}
    (h : ofText cores text = .ok c) : c.fault? = none := by
  rw [ofText] at h
  split at h
  · cases h
  · split at h
    · cases h
    · next hnone =>
        obtain rfl := Except.ok.inj h
        exact hnone

end PatternScan.Config
