import SchemaNotation.Settings.Basic
import SchemaNotation.Text.Case

/-! Where settings come from.

The setting `name` is read from the variable `DBSOUP_<NAME>`, the name compared without regard
to case: first from the process environment, then from the environment file. A variable that the
file names without a value counts as not given; a setting given nowhere keeps its default.
Settings given directly as keywords are matched to their names without regard to case. -/

namespace SchemaNotation.Settings

/-- The value of the last variable whose name, in lower case, is `key`. -/
def lastValue (vars : List (String × Option String)) (key : String) : Option (Option String) :=
  (vars.reverse.find? fun (k, _) => Text.lower k == key).map Prod.snd

/-- The value given for a setting, by the process environment `environment` or else by the
variables `fileVars` of the environment file. -/
def givenValue (environment : List (String × String)) (fileVars : List (String × Option String))
    (name : String) : Option SettingValue :=
  let key := "dbsoup_" ++ name
  match lastValue (environment.map fun (k, v) => (k, some v)) key with
  | some (some v) => some (.text v)
  | _ =>
    match lastValue fileVars key with
    | some (some v) => some (.text v)
    | _ => none

/-- The value given for a setting by keywords: that of the first keyword whose name, in lower
case, is the setting's name. -/
def keywordValue (keywords : List (String × SettingValue)) (name : String) :
    Option SettingValue :=
  (keywords.find? fun (k, _) => Text.lower k == name).map Prod.snd

/-- The settings given by keywords, in order. -/
def ofKeywords (keywords : List (String × SettingValue)) : Except (List SettingFault) Settings :=
  ofValues (keywordValue keywords)

/-- The settings given by the process environment and the environment file's variables. -/
def ofSources (environment : List (String × String)) (fileVars : List (String × Option String)) :
    Except (List SettingFault) Settings :=
  ofValues (givenValue environment fileVars)

end SchemaNotation.Settings
