import BrowserFlow.Json.Basic
import BrowserFlow.Text.Quoted

/-!
# Values as literals of the script language

Messages and scripts show a value the way the script language writes it: `None`,
`True`, quoted text, lists and dictionaries. A text that stands alone is shown
without quotes.
-/

namespace BrowserFlow.Json

/-- Positional from 0.0001 to below 10 ^ 16; exponents have two digits or more. -/
def literalLayout : DecimalLayout := ⟨-4, 16, 2, "nan", "inf"⟩

mutual

def literal : Json → List Char
  | .null => "None".toList
  | .bool b => if b then "True".toList else "False".toList
  | .number x => x.text literalLayout
  | .text s => Text.quoted s.toList
  | .list items => '[' :: (literalItems items ++ [']'])
  | .object fields => '\x7b' :: (literalFields fields ++ ['\x7d'])

def literalItems : List Json → List Char
  | [] => []
  | [x] => literal x
  | x :: y :: rest => literal x ++ ',' :: ' ' :: literalItems (y :: rest)

def literalFields : List (String × Json) → List Char
  | [] => []
  | [(k, v)] => Text.quoted k.toList ++ ':' :: ' ' :: literal v
  | (k, v) :: next :: rest =>
    Text.quoted k.toList ++ ':' :: ' ' :: (literal v ++ ',' :: ' ' :: literalFields (next :: rest))

end

/-- A value as part of a message: a text as it is, anything else as a literal. -/
def shown : Json → String
  | .text s => s
  | v => String.ofList v.literal

/-- What the script language calls the type of a value. -/
def typeName : Json → String
  | .null => "NoneType"
  | .bool _ => "bool"
  | .number (.int _) => "int"
  | .number (.float _) => "float"
  | .text _ => "str"
  | .list _ => "list"
  | .object _ => "dict"

end BrowserFlow.Json
