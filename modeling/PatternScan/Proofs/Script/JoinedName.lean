import Mathlib.Algebra.Group.Nat.Defs
import Mathlib.Data.List.Induction
import PatternScan.Proofs.Script.Annotation
import PatternScan.Proofs.Script.Token

/-!
# Joined group names

Two group names joined by a delimiter say what both of them say. Of colours, variable names and
ordering indices the first one counts, of the uses of a role the last one, and every use of a
plot role bears the whole name.
-/

namespace PatternScan.Script

/-- The use in a group of another name. -/
def PlotUse.inGroup (name : String) (use : PlotUse) : PlotUse := { use with groupName := name }

namespace Annotation

variable {R V : Type} [Ord R] [Std.TransOrd R] [Std.LawfulEqOrd R] [DecidableEq R]

/-! ## Bindings in turn -/

/-- The bindings that the tokens bring, one after another. -/
def bindAll (read : List Char → Option (R × V)) (m : SortedMap R V) (tokens : List (List Char)) :
    SortedMap R V :=
  tokens.foldl (fun m token => bindRole m (read token)) m

section Bindings

variable {read : List Char → Option (R × V)} {m : SortedMap R V} {tokens : List (List Char)}

omit [DecidableEq R] in
theorem ascending_bindAll (h : m.Ascending) : (bindAll read m tokens).Ascending := by
  induction tokens generalizing m with
  | nil => exact h
  | cons token rest ih => exact ih (ascending_bindRole h (read token))

omit [Std.TransOrd R] [Std.LawfulEqOrd R] [DecidableEq R] in
theorem bindAll_concat (token : List Char) :
    bindAll read m (tokens ++ [token]) = bindRole (bindAll read m tokens) (read token) := by
  rw [bindAll, List.foldl_append]
  rfl

omit [Std.TransOrd R] in
/-- A role has the last use that the tokens bring, and else the one from before. -/
theorem get?_bindAll (role : R) :
    (bindAll read m tokens).get? role =
      ((bindAll read .empty tokens).get? role).or (m.get? role) := by
  induction tokens using List.reverseRecOn with
  | nil => rfl
  | append_singleton tokens token ih =>
      rw [bindAll_concat, bindAll_concat]
      cases read token with
      | none => exact ih
      | some use =>
          rw [bindRole, SortedMap.get?_insert, bindRole, SortedMap.get?_insert, ih]
          split <;> rfl

/-- The bindings of tokens go on top of those from before. -/
theorem bindAll_eq_override (h : m.Ascending) :
    bindAll read m tokens = m.override (bindAll read .empty tokens) := by
  have hempty : (bindAll read .empty tokens).Ascending :=
    ascending_bindAll SortedMap.ascending_empty
  refine (ascending_bindAll h).ext (h.override _) fun role => ?_
  rw [get?_bindAll, hempty.get?_override]

omit [Std.TransOrd R] [Std.LawfulEqOrd R] [DecidableEq R] in
theorem mapValues_bindAll {W : Type} (f : V → W) :
    (bindAll read m tokens).mapValues f =
      bindAll (fun token => (read token).map fun use => (use.1, f use.2)) (m.mapValues f)
        tokens := by
  induction tokens generalizing m with
  | nil => rfl
  | cons token rest ih =>
      rw [bindAll, List.foldl_cons, ← bindAll, ih, bindAll, bindAll, List.foldl_cons]
      cases hread : read token with
      | none => rfl
      | some use =>
          simp only [bindRole, Option.map_some]
          rw [SortedMap.mapValues_insert]

end Bindings

/-! ## What the tokens of a name come to -/

/-- The use of a sequence role that a token brings, where these roles are read. -/
def sequenceUse? (options : ParseOptions) (token : List Char) :
    Option (SequenceRole × Option String) :=
  if options.sequence then SequenceRole.ofToken? token else none

/-- The use of a plot role that a token of a name brings, where these roles are read. -/
def plotUse? (options : ParseOptions) (name : String) (token : List Char) :
    Option (PlotRole × PlotUse) :=
  if options.plot then (PlotRole.ofToken? token).map fun (role, params) => (role, ⟨name, params⟩)
  else none

variable (options : ParseOptions) (name : String) (tokens : List (List Char)) (a : Annotation)

theorem foldl_addToken :
    tokens.foldl (addToken options name) a =
      { color := a.color.or (tokens.findSome? readColor?)
        variableName := a.variableName.or (tokens.findSome? readVariable?)
        sequence := bindAll (sequenceUse? options) a.sequence tokens
        plot := bindAll (plotUse? options name) a.plot tokens } := by
  induction tokens generalizing a with
  | nil => simp [bindAll]
  | cons token rest ih =>
      rw [List.foldl_cons, ih]
      have hcolor : (addToken options name a token).color.or (rest.findSome? readColor?) =
          a.color.or ((token :: rest).findSome? readColor?) := by
        cases hold : a.color <;> cases hnew : readColor? token <;> simp [addToken, hold, hnew]
      have hvariable :
          (addToken options name a token).variableName.or (rest.findSome? readVariable?) =
            a.variableName.or ((token :: rest).findSome? readVariable?) := by
        cases hold : a.variableName <;> cases hnew : readVariable? token <;>
          simp [addToken, hold, hnew]
      have hsequence : (addToken options name a token).sequence =
          bindRole a.sequence (sequenceUse? options token) := by
        simp only [addToken, sequenceUse?]
        split <;> rfl
      have hplot : (addToken options name a token).plot =
          bindRole a.plot (plotUse? options name token) := by
        simp only [addToken, plotUse?]
        split <;> rfl
      rw [hcolor, hvariable, hsequence, hplot]
      rfl

/-- The plot roles of the same tokens in a group of another name. -/
theorem mapValues_bindAll_plotUse? (other : String) (m : SortedMap PlotRole PlotUse) :
    (bindAll (plotUse? options other) m tokens).mapValues (PlotUse.inGroup name) =
      bindAll (plotUse? options name) (m.mapValues (PlotUse.inGroup name)) tokens := by
  rw [mapValues_bindAll]
  congr 1
  funext token
  simp only [plotUse?]
  split
  · rw [Option.map_map]
    rfl
  · rfl

/-- What two names say that are joined to one. -/
def merge (name : String) (a b : Annotation) : Annotation where
  color := a.color.or b.color
  variableName := a.variableName.or b.variableName
  sequence := a.sequence.override b.sequence
  plot := (a.plot.override b.plot).mapValues (PlotUse.inGroup name)

/-- Tokens that are taken in one after another are merged. -/
theorem foldl_addToken_append (first second : String) (early late : List (List Char)) :
    (early ++ late).foldl (addToken options name) blank =
      merge name (early.foldl (addToken options first) blank)
        (late.foldl (addToken options second) blank) := by
  have hsequence : bindAll (sequenceUse? options) .empty (early ++ late) =
      (bindAll (sequenceUse? options) .empty early).override
        (bindAll (sequenceUse? options) .empty late) := by
    rw [bindAll, List.foldl_append]
    exact bindAll_eq_override (ascending_bindAll SortedMap.ascending_empty)
  have hplot : bindAll (plotUse? options name) .empty (early ++ late) =
      ((bindAll (plotUse? options first) .empty early).override
        (bindAll (plotUse? options second) .empty late)).mapValues (PlotUse.inGroup name) := by
    rw [SortedMap.mapValues_override, mapValues_bindAll_plotUse?, mapValues_bindAll_plotUse?,
      bindAll, List.foldl_append]
    exact bindAll_eq_override (ascending_bindAll SortedMap.ascending_empty)
  simp only [foldl_addToken, merge, blank, Option.none_or, List.findSome?_append, hsequence,
    hplot]

end Annotation

open Annotation

/-- Two group names joined by a delimiter, in any case, say what both say, unless the first one
ends in a delimiter but for its last underscore. Its colour, its variable name and its ordering
index count before those of the second one, and the roles of the second one before its own; all
plot roles are in the group of the whole name. -/
theorem joined_name_merges (options : ParseOptions) {a d b : String} (hd : IsDelimiter d.toList)
    (ha : ¬ EndsInAnd a.toList) :
    ofName options (a ++ d ++ b) = merge (a ++ d ++ b) (ofName options a) (ofName options b) ∧
    (∀ role, (ofName options (a ++ d ++ b)).sequence.get? role =
      ((ofName options b).sequence.get? role).or ((ofName options a).sequence.get? role)) ∧
    (∀ role, (ofName options (a ++ d ++ b)).plot.get? role =
      (((ofName options b).plot.get? role).or ((ofName options a).plot.get? role)).map
        fun use => ⟨a ++ d ++ b, use.params⟩) ∧
    orderingIndex? (a ++ d ++ b) = (orderingIndex? a).or (orderingIndex? b) ∧
    ∀ index, orderingIndex? a = some index → index < 2 ^ 32 := by
  have hmerge : ofName options (a ++ d ++ b) =
      merge (a ++ d ++ b) (ofName options a) (ofName options b) := by
    rw [ofName, tokens_append hd ha]
    exact foldl_addToken_append options (a ++ d ++ b) a b (tokens a) (tokens b)
  obtain ⟨hsequence, hplot⟩ := ascending_ofName options b
  refine ⟨hmerge, fun role => ?_, fun role => ?_, orderingIndex?_append hd ha,
    fun index hindex => ?_⟩
  · rw [hmerge]
    exact hsequence.get?_override _ role
  · rw [hmerge, merge, SortedMap.get?_mapValues, hplot.get?_override]
    rfl
  · exact Nat.lt_of_le_of_lt (le_of_orderingIndex? hindex) (by decide)

/-- A name with a graph and a variable. -/
def graphName : String := "PGN_a_1_and_VAR_x"

/-- A name with another variable, another graph and an index, that begins like a delimiter. -/
def indexName : String := "and_VAR_y_and_PGN_a_2_and_GVI7"

set_option maxRecDepth 4000 in
theorem joined_name_merges_graphName :
    (ofName .standard (graphName ++ "_And_" ++ indexName)).variableName = some "x" ∧
    (ofName .standard (graphName ++ "_And_" ++ indexName)).sequence.get? .client = none ∧
    (ofName .standard (graphName ++ "_And_" ++ indexName)).plot.get? .graphName =
      some ⟨graphName ++ "_And_" ++ indexName, ["a", "2"]⟩ ∧
    orderingIndex? (graphName ++ "_And_" ++ indexName) = some 7 := by
  have hd : IsDelimiter "_And_".toList := by decide
  have ha : ¬ EndsInAnd graphName.toList := by decide
  have hgraph : ofName .standard graphName =
      ⟨none, some "x", .empty, ⟨[(.graphName, ⟨graphName, ["a", "1"]⟩)]⟩⟩ := rfl
  have hindex : ofName .standard indexName =
      ⟨none, some "y", .empty, ⟨[(.graphName, ⟨indexName, ["a", "2"]⟩)]⟩⟩ := rfl
  have hnone : orderingIndex? graphName = none := rfl
  have hseven : orderingIndex? indexName = some 7 := rfl
  obtain ⟨hmerge, hsequence, hplot, hordering, -⟩ :=
    joined_name_merges .standard (b := indexName) hd ha
  rw [hgraph, hindex] at hmerge hsequence hplot
  refine ⟨?_, ?_, ?_, ?_⟩
  · rw [hmerge]
    rfl
  · exact hsequence .client
  · exact hplot .graphName
  · rw [hordering, hnone, hseven]
    rfl

end PatternScan.Script
