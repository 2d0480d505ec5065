import PatternScan.Number.Decimal

/-!
# Parameters of plot roles

A plot role takes parameters by position. Required ones come before optional ones, and
some must be written in a certain form.
-/

namespace PatternScan.Script

/-- The kind of drawing an axis rectangle holds. -/
inductive AxisType where
  | gantt
  | point
  | linear
  deriving DecidableEq, Repr, Inhabited

/-- The name of the axis type. -/
def AxisType.name : AxisType → String
  | gantt => "Gantt"
  | point => "Point"
  | linear => "Linear"

/-- The axis type of a word, in any case. -/
def AxisType.ofText? (text : String) : Option AxisType :=
  [("gantt", AxisType.gantt), ("point", .point), ("linear", .linear)].lookup
    (String.ofList (text.toList.map Text.lowerAscii))

/-- The form in which a parameter must be written. -/
inductive ParameterForm where
  | free
  | integer
  | number
  | axisType
  | negation
  | eventType
  | timeFormat
  deriving DecidableEq, Repr

/-- Why a parameter is not written in its form. -/
inductive FormFault where
  | notInteger (value : String)
  | notNumber (value : String)
  | notAxisType (value : String)
  | notNegation (value : String)
  | notEventType (value : String)
  | notTimeFormat (redundant : String)
  deriving DecidableEq, Repr

/-- The fault in words. -/
def FormFault.message : FormFault → String
  | notInteger value =>
      "Wrong literal '" ++ value ++ "' provided. It is not convertible to integer."
  | notNumber value =>
      "Wrong literal '" ++ value ++ "' provided. It is not convertible to double."
  | notAxisType value =>
      "Wrong literal '" ++ value ++ "' provided. Expected values for the 'axisRectType' " ++
        "parameter are: GANTT, POINT, LINEAR."
  | notNegation value =>
      "Wrong literal '" ++ value ++ "' provided. Expected value for the 'neg' parameter is: neg."
  | notEventType value =>
      "Wrong literal '" ++ value ++ "' provided. Expected values for the 'eventType' " ++
        "parameter are: start, end."
  | notTimeFormat redundant =>
      "Provided literal should contain only \"0-9wyMdHmsf\" characters. The \"" ++ redundant ++
        "\" characters are redundant."

/-- The word of a negative bound, in any case. -/
def isNegation (value : String) : Bool := Text.sameAsciiText "neg".toList value.toList

/-- The characters that a time format may hold. -/
def timeFormatChars : List Char := "0123456789wyMdHmsf".toList

/-- The characters that a time format may not hold, each once, in order of appearance. -/
def redundantTimeChars (value : String) : List Char :=
  (value.toList.filter fun c => !timeFormatChars.contains c).eraseDups

namespace ParameterForm

/-- The fault of a value in this form, if it has one. -/
def fault? : ParameterForm → String → Option FormFault
  | free, _ => none
  | integer, value =>
      if (Number.readInt? Number.maxInt32 value).isSome then none else some (.notInteger value)
  | number, value =>
      if (Number.readFloat? value).isSome then none else some (.notNumber value)
  | axisType, value =>
      if (AxisType.ofText? value).isSome then none else some (.notAxisType value)
  | negation, value => if isNegation value then none else some (.notNegation value)
  | eventType, value =>
      if Text.sameAsciiText "start".toList value.toList ||
          Text.sameAsciiText "end".toList value.toList then
        none
      else
        some (.notEventType value)
  | timeFormat, value =>
      let redundant := redundantTimeChars value
      if value.isEmpty || !redundant.isEmpty then
        some (.notTimeFormat (String.ofList redundant))
      else
        none

end ParameterForm

/-- One parameter of a role: its name, whether it must be given, and its form. -/
structure ParameterSpec where
  name : String
  required : Bool
  form : ParameterForm
  deriving DecidableEq, Repr

/-- A whole part and the digits of a fraction as one number. Both are integers of 32 bits
with an optional sign, and the fraction is divided by the power of ten of its length. -/
def joinDecimal? (whole fraction : String) : Option Binary64 :=
  (Number.readInt? Number.maxInt32 whole).bind fun w =>
    (Number.readInt? Number.maxInt32 fraction).map fun f =>
      .ofFloat (Float.ofInt w + Float.ofInt f / Number.power 10.0 fraction.length)

end PatternScan.Script
