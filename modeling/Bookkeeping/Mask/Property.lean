import Bookkeeping.Text.Age
import Bookkeeping.Text.Break
import Bookkeeping.Text.Word

/-!
# Sets of characters by name

Masks name sets of characters: by a property, a general category or a script, as in `Lowercase`,
`Lu` or `Greek`, or by a value of a property, as in `sc=Greek` or `age=6.0`.  Case, blanks, hyphens
and underscores in names do not matter, nor does `is` at their start.
-/

namespace Bookkeeping

namespace Mask

open Text (CharSet)

/-- A name without case, blanks, hyphens and underscores. -/
def evenName (name : List Char) : String :=
  String.ofList ((name.filter fun c => c.toNat < 128 && !" _-".contains c).map Char.toLower)

/-- A name without what does not matter; `isc` is a name of its own. -/
def plainName (name : List Char) : String :=
  match name with
  | i :: s :: rest =>
    if i.toLower = 'i' ∧ s.toLower = 's' then
      let rest := evenName rest
      if rest = "c" then "isc" else rest
    else evenName name
  | name => evenName name

/-- The characters of a general category, or of what counts as one. -/
def generalCategory? (name : String) : Option CharSet :=
  match name with
  | "any" => some .all
  | "ascii" => some .ascii
  | "assigned" => some (CharSet.ofCategories ["cn"]).compl
  | name => Text.category? name

/-- The characters that a name stands for: a property, else a general category, else a script. -/
def setNamed? (name : List Char) : Option CharSet :=
  let name := plainName name
  Text.property? name <|> generalCategory? name <|> Text.script? name

/-- The characters with a value of a property. -/
def setWithValue? (property value : List Char) : Option CharSet :=
  let value := plainName value
  match plainName property with
  | "gc" | "generalcategory" => generalCategory? value
  | "sc" | "script" => Text.script? value
  | "scx" | "scriptextensions" => Text.scriptUse? value
  | "age" => Text.age? value
  | "gcb" | "graphemeclusterbreak" => Text.setOfName? Text.charBreaks value
  | "wb" | "wordbreak" => Text.setOfName? Text.wordBreaks value
  | "sb" | "sentencebreak" => Text.setOfName? Text.sentenceBreaks value
  | _ => none

/-- The part of a text before a separator and the part behind it. -/
def cutAt? (separator : List Char) : List Char → Option (List Char × List Char)
  | [] => none
  | c :: s =>
    if separator.isPrefixOf (c :: s) then some ([], (c :: s).drop separator.length)
    else (cutAt? separator s).map fun (before, behind) => (c :: before, behind)

/-- The characters that a text between braces stands for. -/
def setDescribed? (text : List Char) : Option CharSet :=
  match cutAt? ['!', '='] text <|> cutAt? [':'] text <|> cutAt? ['='] text with
  | some (property, value) => setWithValue? property value
  | none => setNamed? text

/-- The characters of ASCII in a class of a name. -/
def asciiClass? (name : String) : Option CharSet :=
  let digits : CharSet := .ofRange 0x30 0x39
  let upper : CharSet := .ofRange 0x41 0x5A
  let lower : CharSet := .ofRange 0x61 0x7A
  match name with
  | "alnum" => some (.unionAll [digits, upper, lower])
  | "alpha" => some (upper.union lower)
  | "ascii" => some .ascii
  | "blank" => some ((CharSet.ofRange 0x9 0x9).union (.ofRange 0x20 0x20))
  | "cntrl" => some ((CharSet.ofRange 0x0 0x1F).union (.ofRange 0x7F 0x7F))
  | "digit" => some digits
  | "graph" => some (.ofRange 0x21 0x7E)
  | "lower" => some lower
  | "print" => some (.ofRange 0x20 0x7E)
  | "punct" => some ((CharSet.ofRange 0x21 0x7E).diff (.unionAll [digits, upper, lower]))
  | "space" => some ((CharSet.ofRange 0x9 0xD).union (.ofRange 0x20 0x20))
  | "upper" => some upper
  | "word" => some .asciiWordChars
  | "xdigit" => some (.unionAll [digits, .ofRange 0x41 0x46, .ofRange 0x61 0x66])
  | _ => none

end Mask

end Bookkeeping
