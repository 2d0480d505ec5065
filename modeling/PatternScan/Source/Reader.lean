import PatternScan.ScanError

/-!
# Sources of records

A source tells how many records can be seen and hands out the record at a position. A
request may have side effects within the source, such as a look at the file or a
remembered record, so it also yields the source as it is afterwards.
-/

namespace PatternScan

/-- The two questions that are put to a source with states in `S`. -/
structure SourceReader (S : Type) where
  /-- The number of records that can be seen. -/
  size : S → Except ScanError Nat × S
  /-- The record at a position. -/
  get : S → Nat → Except ScanError Record × S

end PatternScan
