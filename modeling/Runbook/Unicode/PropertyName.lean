import Runbook.Unicode.Age
import Runbook.Unicode.CaseMapping
import Runbook.Unicode.ScriptExtension

/-! Sets of code points by the names that the Unicode property files give them.

Case, spaces, hyphens, underscores and a leading `is` of a name do not count. A name alone is first a
binary property, then a general category, then a script; `sc`, `cf` and `lc` alone are categories.
-/

set_option autoImplicit false

namespace Runbook.Unicode.PropertyName

def normalize (name : List Char) : String :=
  let body :=
    match name with
    | i :: s :: rest => if i.toLower == 'i' && s.toLower == 's' then rest else name
    | _ => name
  let kept := body.filterMap fun c =>
    if c == ' ' || c == '_' || c == '-' || 127 < c.toNat then none else some c.toLower
  if kept == ['c'] && body.length < name.length then "isc" else String.ofList kept

def binary? (name : String) : Option RangeSet :=
  Property.named? name <|> DerivedProperty.named? name <|> CaseProperty.named? name

def set? (name : List Char) : Option RangeSet :=
  let name := normalize name
  binary? name <|> GeneralCategory.named? name <|> Script.named? name

/-- A value of one of the properties that have more than two. -/
def valueSet? (property value : List Char) : Option RangeSet :=
  let value := normalize value
  match normalize property with
  | "gc" | "generalcategory" => GeneralCategory.named? value
  | "sc" | "script" => Script.named? value
  | "scx" | "scriptextensions" => ScriptExtension.named? value
  | "age" => Age.named? value
  | "gcb" | "graphemeclusterbreak" => GraphemeBreak.named? value
  | "wb" | "wordbreak" => WordBreak.named? value
  | "sb" | "sentencebreak" => SentenceBreak.named? value
  | _ => none

end Runbook.Unicode.PropertyName
