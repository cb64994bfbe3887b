import Bookkeeping.Elision
import Bookkeeping.Text.Blank

/-!
# Settings of reports

`Settings` says how reports are written: how long texts are shortened, whether values are coloured,
the pattern of dates, and the expressions behind the amount and the total of a line.  `ofOptions`
reads settings from named texts; names it does not know are passed over.
-/

namespace Bookkeeping

/-- How reports are written. -/
structure Settings where
  elision : Elision := {}
  /-- Values are coloured where a template asks for it. -/
  coloured : Bool := false
  /-- Positive values are coloured instead of negative ones. -/
  inverted : Bool := false
  datePattern : String := "%Y/%m/%d"
  amountExpr : String := "amount"
  totalExpr : String := "total"
deriving DecidableEq

/-- An option with a value that it cannot have. -/
structure SettingsError where
  key : String
  value : String
deriving DecidableEq

namespace SettingsError

/-- The wording of the error. -/
def message (e : SettingsError) : String :=
  "Invalid value '" ++ e.value ++ "' for option '" ++ e.key ++ "'"

end SettingsError

namespace ElisionStyle

/-- The full name of the style. -/
def name : ElisionStyle → String
  | leading => "truncate_leading"
  | middle => "truncate_middle"
  | trailing => "truncate_trailing"
  | abbreviate => "abbreviate"

/-- The style with this full name. -/
def ofName? (s : String) : Option ElisionStyle :=
  [leading, middle, trailing, abbreviate].find? (·.name == s)

/-- The style that an option value means: its full name, or that without its first word, in any
case and with hyphens for underscores. -/
def ofOption? (value : String) : Option ElisionStyle :=
  let word := (Text.trim value.toList).map fun c => if c = '-' then '_' else c.toLower
  match String.ofList word with
  | "leading" => some leading
  | "middle" => some middle
  | "trailing" => some trailing
  | s => ofName? s

end ElisionStyle

namespace Settings

/-- The truth value that an option value means. -/
def flag? (value : String) : Option Bool :=
  match String.ofList ((Text.trim value.toList).map Char.toLower) with
  | "true" | "yes" | "on" | "1" => some true
  | "false" | "no" | "off" | "0" => some false
  | _ => none

/-- The largest count that an option can give, `2 ^ 64 - 1`. -/
def maxCount : Nat := 18446744073709551615

/-- The count that an option value means: digits, perhaps behind a plus sign. -/
def count? (value : String) : Option Nat :=
  let s := Text.trim value.toList
  let digits := if s.head? = some '+' then s.tail else s
  if digits.isEmpty || !digits.all Char.isDigit then none
  else
    let n := Nat.ofDigitChars 10 digits 0
    if n ≤ maxCount then some n else none

/-- The settings with one option changed. -/
def withOption (s : Settings) (key value : String) : Except SettingsError Settings :=
  let take {α : Type} (read : Option α) (put : α → Settings) : Except SettingsError Settings :=
    match read with
    | some a => .ok (put a)
    | none => .error ⟨key, value⟩
  match key with
  | "elision_style" =>
    take (ElisionStyle.ofOption? value) fun style => { s with elision.style := style }
  | "abbrev_length" => take (count? value) fun n => { s with elision.kept := n }
  | "ansi_codes" => take (flag? value) fun b => { s with coloured := b }
  | "ansi_invert" => take (flag? value) fun b => { s with inverted := b }
  | "date_format" => .ok { s with datePattern := value }
  | "amount_expr" => .ok { s with amountExpr := value }
  | "total_expr" => .ok { s with totalExpr := value }
  | _ => .ok s

/-- The settings that the options give, on top of the usual ones. -/
def ofOptions (options : List (String × String)) : Except SettingsError Settings :=
  options.foldlM (fun s (key, value) => s.withOption key value) {}

end Settings

end Bookkeeping
