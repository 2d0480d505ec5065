import PatternScan.Unicode.Age
import PatternScan.Unicode.Script
import PatternScan.Unicode.Segment

/-!
# Questions about properties of characters

A question names a set of characters, or a property and one of its values. Case, blanks,
hyphens and underscores do not matter in names, and a leading `is` is passed over.
-/

namespace PatternScan.Unicode

open Pattern (CharSet)

/-- A question about characters. -/
inductive Query where
  /-- For a binary property, a category or a script. -/
  | named (name : String)
  /-- For a value of a property. -/
  | valued (property value : String)
  deriving DecidableEq, Repr

/-- Why a question has no answer. -/
inductive QueryFault where
  | propertyNotFound
  | valueNotFound
  deriving DecidableEq, Repr

/-- The characters of a name that matter, in small letters. -/
def plainChars (cs : List Char) : List Char :=
  (cs.filter fun c => c != ' ' && c != '_' && c != '-' && c.toNat < 128).map Char.toLower

/-- A name as it stands in the tables. A single letter `c` after `is` names no category. -/
def plainName (name : String) : String :=
  match name.toList with
  | i :: s :: rest =>
      if i.toLower == 'i' && s.toLower == 's' then
        match plainChars rest with
        | ['c'] => "isc"
        | cs => String.ofList cs
      else String.ofList (plainChars (i :: s :: rest))
  | cs => String.ofList (plainChars cs)

/-- The characters of a value of a property. -/
def valueSet? (property value : String) : Option CharSet :=
  match property with
  | "gc" | "generalcategory" => category? value
  | "sc" | "script" => script? value
  | "scx" | "scriptextensions" => scriptExtension? value
  | "age" => assignedBy? value
  | "gcb" | "graphemeclusterbreak" => graphemeBreak? value
  | "wb" | "wordbreak" => wordBreak? value
  | "sb" | "sentencebreak" => sentenceBreak? value
  | _ => none

namespace Query

/-- The characters that a question asks for. -/
def answer : Query → Except QueryFault CharSet
  | named name =>
      let name := plainName name
      match (property? name <|> category? name) <|> script? name with
      | some set => .ok set
      | none =>
          .error (if surrogateNames.contains name || emptyScriptNames.contains name then
            .valueNotFound else .propertyNotFound)
  | valued property value =>
      let property := plainName property
      match valueSet? property (plainName value) with
      | some set => .ok set
      | none =>
          .error (if (property? property).isSome || furtherPropertyNames.contains property then
            .valueNotFound else .propertyNotFound)

end Query

end PatternScan.Unicode
