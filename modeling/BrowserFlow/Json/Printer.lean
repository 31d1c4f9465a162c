import BrowserFlow.Json.Basic
import BrowserFlow.Text.Quoted

/-!
# Writing document values

`Json.render` writes a value as text of ASCII characters, on one line or with one
line an item. Everything outside the printable ASCII range is escaped, beyond the
basic plane as a pair of surrogates. A half that stands alone is escaped as it is.
-/

namespace BrowserFlow.Json

/-- Positional from 0.0001 to below 10 ^ 16; exponents have two digits or more. -/
def numberLayout : DecimalLayout := ⟨-4, 16, 2, "NaN", "Infinity"⟩

def unitEscape (unit : Nat) : List Char := '\\' :: 'u' :: Text.hexDigits 4 unit

def escapeChar (c : Char) : List Char :=
  if c = '\x22' then ['\\', '\x22']
  else if c = '\\' then ['\\', '\\']
  else if c = '\n' then ['\\', 'n']
  else if c = '\r' then ['\\', 'r']
  else if c = '\t' then ['\\', 't']
  else if c = '\x0c' then ['\\', 'f']
  else if c = '\x08' then ['\\', 'b']
  else if 0x20 ≤ c.toNat ∧ c.toNat ≤ 0x7e then [c]
  else if c.toNat < 0x10000 then unitEscape c.toNat
  else if let some unit := Text.half? c then unitEscape unit
  else
    unitEscape (0xd800 + (c.toNat - 0x10000) / 0x400) ++
      unitEscape (0xdc00 + (c.toNat - 0x10000) % 0x400)

def renderText (cs : List Char) : List Char := '\x22' :: (cs.flatMap escapeChar ++ ['\x22'])

/-- The text that each level is indented by; without one all stands on one line. -/
abbrev Indent := Option (List Char)

def lineBreak (indent : Indent) (level : Nat) : List Char :=
  match indent with
  | none => []
  | some unit => '\n' :: (List.replicate level unit).flatten

def separator (indent : Indent) (level : Nat) : List Char :=
  match indent with
  | none => [',', ' ']
  | some _ => ',' :: lineBreak indent level

mutual

def renderAt (indent : Indent) (level : Nat) : Json → List Char
  | .null => ['n', 'u', 'l', 'l']
  | .bool true => ['t', 'r', 'u', 'e']
  | .bool false => ['f', 'a', 'l', 's', 'e']
  | .number x => x.text numberLayout
  | .text s => renderText s.toList
  | .list [] => ['[', ']']
  | .list (x :: xs) =>
    '[' :: (lineBreak indent (level + 1) ++ renderAt indent (level + 1) x ++
      renderItems indent (level + 1) xs ++ lineBreak indent level ++ [']'])
  | .object [] => ['\x7b', '\x7d']
  | .object ((k, v) :: fields) =>
    '\x7b' :: (lineBreak indent (level + 1) ++ renderText k.toList ++ ':' :: ' ' ::
      renderAt indent (level + 1) v ++ renderFields indent (level + 1) fields ++
      lineBreak indent level ++ ['\x7d'])

def renderItems (indent : Indent) (level : Nat) : List Json → List Char
  | [] => []
  | x :: xs => separator indent level ++ renderAt indent level x ++ renderItems indent level xs

def renderFields (indent : Indent) (level : Nat) : List (String × Json) → List Char
  | [] => []
  | (k, v) :: fields =>
    separator indent level ++ renderText k.toList ++ ':' :: ' ' :: renderAt indent level v ++
      renderFields indent level fields

end

def render (indent : Indent) (v : Json) : String := String.ofList (renderAt indent 0 v)

/-- An indentation by `n` spaces a level; lines without indentation if `n` is not
positive. -/
def spaces (n : Int) : Indent := some (List.replicate n.toNat ' ')

end BrowserFlow.Json
