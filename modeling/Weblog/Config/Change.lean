import Weblog.Config.Settings
import Weblog.Number.Numeral
import Weblog.Text.LowerCase
/-!
# Changing a setting

* `SettingKey`: the settings, and the names under which they are changed.
* `Settings.change`: **the settings with a value given as text**.
* `ChangeError`: why a text is no value of a setting, or no setting has a name.
-/

namespace Weblog

open Listing Text

/-- The settings that can be changed. -/
inductive SettingKey
  | dataFile
  | colors
  | pageSize
  | order
  | searchFields
  deriving DecidableEq

namespace SettingKey

def name : SettingKey → String
  | dataFile => "data_file"
  | colors => "output.color"
  | pageSize => "listing.limit"
  | order => "listing.sort"
  | searchFields => "search.fields"

def all : List SettingKey := [dataFile, colors, pageSize, order, searchFields]

def ofName? (name : String) : Option SettingKey :=
  all.find? (·.name == name)

end SettingKey

/-- Why a setting is not changed. -/
inductive ChangeError
  | unknownKey (key : String)
  | noFlag (value : String)
  | noPageSize (value : String)
  | noOrder (value : String)
  deriving DecidableEq

def commaList (names : List String) : String :=
  ", ".intercalate names

def ChangeError.message : ChangeError → String
  | unknownKey key => "Unknown config key '" ++ key ++ "'. Valid keys: " ++
      commaList (SettingKey.all.map SettingKey.name)
  | noFlag value => "Invalid boolean value '" ++ value ++
      "'. Use true/false, yes/no, 1/0, or on/off"
  | noPageSize value => "Invalid listing.limit value '" ++ value ++ "'. Use a positive integer"
  | noOrder value => "Invalid listing.sort value '" ++ value ++ "'. Valid values: " ++
      commaList (orderNames.map (·.1))

/-! ## Values -/

/-- The truth value that a word stands for, in any letter case. -/
def readFlag (value : String) : Except ChangeError Bool :=
  let word := lower value
  if ["true", "yes", "1", "on"].contains word then .ok true
  else if ["false", "no", "0", "off"].contains word then .ok false
  else .error (.noFlag value)

/-- A positive number. -/
def readPageSize (value : String) : Except ChangeError UInt64 :=
  match Number.readCount value with
  | some n => if 0 < n then .ok n else .error (.noPageSize value)
  | none => .error (.noPageSize value)

def readOrderName (value : String) : Except ChangeError String :=
  if (orderNames.lookup value).isSome then .ok value else .error (.noOrder value)

/-- Names between commas, without the blanks around them. Empty names are left out. -/
def readNames (value : String) : List String :=
  ((value.toList.splitOn ',').map trim).filter (· ≠ []) |>.map String.ofList

/-- The settings with another value of one of them. -/
def Settings.set (s : Settings) (value : String) : SettingKey → Except ChangeError Settings
  | .dataFile => .ok { s with dataFile := some value }
  | .colors => return { s with colors := some (← readFlag value) }
  | .pageSize => return { s with pageSize := some (← readPageSize value) }
  | .order => return { s with order := some (← readOrderName value) }
  | .searchFields => .ok { s with searchFields := readNames value }

/-- The settings with another value of the one with a name. -/
def Settings.change (s : Settings) (key value : String) : Except ChangeError Settings :=
  match SettingKey.ofName? key with
  | some k => s.set value k
  | none => .error (.unknownKey key)

end Weblog
