import SchemaNotation.Text.Blank
import SchemaNotation.Check.Rules
import SchemaNotation.Render.Format

/-! Settings of the command line.

Seven settings: the log level, an optional log file, the three column widths of the formatter,
and the two thresholds of the advisory checks. Each may be given as a value of some shape; a
value is accepted when it reads as the setting's type, and a number must then lie in the
setting's range. Whole numbers may be given as numbers, as truth values (one and zero), as
numbers with a zero fraction, or as texts that hold an optional sign and decimal digits,
optionally followed by a point and zeros, with white space around. Every setting that fails is
reported, in the order the settings are listed. -/

namespace SchemaNotation

/-- The severity of a log record, from the most detailed to the most severe. -/
inductive LogLevel where
  | trace
  | debug
  | info
  | success
  | warning
  | error
  | critical
deriving BEq, Repr, Inhabited, DecidableEq

namespace LogLevel

/-- All levels, least severe first. -/
def all : List LogLevel := [.trace, .debug, .info, .success, .warning, .error, .critical]

/-- The name of a level. -/
def name : LogLevel → String
  | .trace => "TRACE"
  | .debug => "DEBUG"
  | .info => "INFO"
  | .success => "SUCCESS"
  | .warning => "WARNING"
  | .error => "ERROR"
  | .critical => "CRITICAL"

/-- The level of a given name, matched exactly. -/
def ofName? (s : String) : Option LogLevel := all.find? (·.name == s)

/-- The severity number of a level. -/
def severity : LogLevel → Nat
  | .trace => 5
  | .debug => 10
  | .info => 20
  | .success => 25
  | .warning => 30
  | .error => 40
  | .critical => 50

end LogLevel

/-- A value given for a setting, before it is checked. -/
inductive SettingValue where
  | text (s : String)
  | whole (n : Int)
  | fraction
  | flag (b : Bool)
  | null
  | compound
deriving BEq, Repr, Inhabited

/-- Why a value is refused. -/
inductive SettingFaultKind where
  | notALevel
  | notPositive
  | negative
  | unreadableNumber
  | numberTooLong
  | notANumber
  | fractionalNumber
  | notAText
deriving BEq, Repr, Inhabited, DecidableEq

/-- The code of a refusal. -/
def SettingFaultKind.code : SettingFaultKind → String
  | .notALevel => "literal_error"
  | .notPositive => "greater_than"
  | .negative => "greater_than_equal"
  | .unreadableNumber => "int_parsing"
  | .numberTooLong => "int_parsing_size"
  | .notANumber => "int_type"
  | .fractionalNumber => "int_from_float"
  | .notAText => "string_type"

/-- A refused setting. -/
structure SettingFault where
  setting : String
  kind : SettingFaultKind
deriving BEq, Repr, Inhabited

/-- The text of refused settings: each `setting: code`, separated by semicolons. -/
def SettingFault.describe (faults : List SettingFault) : String :=
  "; ".intercalate (faults.map fun f => f.setting ++ ": " ++ f.kind.code)

/-- Whether a character is white space around a number written as text. -/
def isNumberSpace (c : Char) : Bool :=
  Text.isBlank c && !(0x1C ≤ c.toNat && c.toNat ≤ 0x1F)

/-- The digits of a run of ASCII digits in which single underscores may stand between two
digits; none when the run is empty or holds anything else. -/
def groupedDigits : List Char → Option (List Char)
  | [] => none
  | [d] => if d.isDigit then some [d] else none
  | d :: '_' :: rest => if d.isDigit then (groupedDigits rest).map (d :: ·) else none
  | d :: rest => if d.isDigit then (groupedDigits rest).map (d :: ·) else none

/-- The value of a list of ASCII digits. -/
def digitsValue (digits : List Char) : Nat :=
  digits.foldl (fun acc d => acc * 10 + (d.toNat - 48)) 0

/-- The most digits, leading zeros not counted, that a whole number written as text may have. -/
def maxDigits : Nat := 4300

/-- Reads a whole number written as text: white space around it, an optional sign, digits
grouped by underscores, and optionally a point followed only by zeros. A number whose digits,
less leading zeros, are more than `maxDigits` is refused as too long. -/
def readWholeText (s : String) : Except SettingFaultKind Int :=
  let cs := ((s.toList.dropWhile isNumberSpace).reverse.dropWhile isNumberSpace).reverse
  let (negative, body) := match cs with
    | '-' :: rest => (true, rest)
    | '+' :: rest => (false, rest)
    | _ => (false, cs)
  let whole := body.takeWhile (· != '.')
  let fractionOk := match body.dropWhile (· != '.') with
    | [] => true
    | _ :: zeros => zeros.all (· == '0')
  match groupedDigits whole with
  | some digits =>
    if !fractionOk then .error .unreadableNumber
    else if maxDigits < (digits.dropWhile (· == '0')).length then .error .numberTooLong
    else
      let n := digitsValue digits
      .ok (if negative then -(n : Int) else n)
  | none => .error .unreadableNumber

/-- Reads a value as a whole number. -/
def SettingValue.toWhole : SettingValue → Except SettingFaultKind Int
  | .whole n => .ok n
  | .flag b => .ok (if b then 1 else 0)
  | .text s => readWholeText s
  | .fraction => .error .fractionalNumber
  | .null | .compound => .error .notANumber

/-- The settings. -/
structure Settings where
  logLevel : LogLevel := .warning
  logFile : Option String := none
  nameWidth : Int := 20
  typeWidth : Int := 25
  constraintColumn : Int := 45
  minFields : Int := 3
  maxProperties : Int := 2
deriving BEq, Repr, Inhabited

namespace Settings

/-- The names of the settings, in order. -/
def names : List String :=
  ["log_level", "log_file", "field_name_width", "data_type_width", "constraint_column_start",
    "min_entity_fields", "max_json_properties"]

/-- Checks a whole-number setting: it must read as a whole number of at least `least`. -/
def checkWhole (setting : String) (given : Option SettingValue) (default least : Int) :
    Int × List SettingFault :=
  match given with
  | none => (default, [])
  | some v =>
    match v.toWhole with
    | .error k => (default, [⟨setting, k⟩])
    | .ok n =>
      if n < least then (default, [⟨setting, if least == 1 then .notPositive else .negative⟩])
      else (n, [])

/-- Settings from the values given for them, looked up by setting name; the refused settings
when any value is refused. -/
def ofValues (given : String → Option SettingValue) : Except (List SettingFault) Settings :=
  let d : Settings := {}
  let (level, f1) : LogLevel × List SettingFault := match given "log_level" with
    | none => (d.logLevel, [])
    | some (.text s) =>
      match LogLevel.ofName? s with
      | some l => (l, [])
      | none => (d.logLevel, [⟨"log_level", .notALevel⟩])
    | some _ => (d.logLevel, [⟨"log_level", .notALevel⟩])
  let (file, f2) : Option String × List SettingFault := match given "log_file" with
    | none | some .null => (none, [])
    | some (.text s) => (some s, [])
    | some _ => (none, [⟨"log_file", .notAText⟩])
  let (nameWidth, f3) := checkWhole "field_name_width" (given "field_name_width") d.nameWidth 1
  let (typeWidth, f4) := checkWhole "data_type_width" (given "data_type_width") d.typeWidth 1
  let (column, f5) :=
    checkWhole "constraint_column_start" (given "constraint_column_start") d.constraintColumn 1
  let (minFields, f6) := checkWhole "min_entity_fields" (given "min_entity_fields") d.minFields 0
  let (maxProps, f7) :=
    checkWhole "max_json_properties" (given "max_json_properties") d.maxProperties 0
  match f1 ++ f2 ++ f3 ++ f4 ++ f5 ++ f6 ++ f7 with
  | [] => .ok ⟨level, file, nameWidth, typeWidth, column, minFields, maxProps⟩
  | faults => .error faults

/-- The formatter layout seeded with the settings' column widths. -/
def style (s : Settings) : Style :=
  { nameWidth := s.nameWidth, typeWidth := s.typeWidth, constraintColumn := s.constraintColumn }

/-- The advisory rules with the settings' thresholds. -/
def rules (s : Settings) : Rules :=
  { minFields := s.minFields, maxProperties := s.maxProperties }

end Settings

end SchemaNotation
