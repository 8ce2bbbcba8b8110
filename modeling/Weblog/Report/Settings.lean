import Weblog.Config.Change
import Weblog.Report.Style
/-!
# The settings

* `settingsText`: the settings in the settings file, or that there is no such file.
-/

namespace Weblog.Report

/-- The line of a setting, if it has a value. -/
def settingLines (name : String) (value : Option String) : List String :=
  value.toList.map fun text => "  " ++ name ++ ": " ++ text

/-- The lines about the settings that have a value. -/
def settingsLines (s : Settings) : List String :=
  ["Settings:"] ++
    settingLines "data_file" s.dataFile ++
    ["", "[output]"] ++
    settingLines "color" (s.colors.map Settings.flagText) ++
    ["", "[listing]"] ++
    settingLines "limit" (s.pageSize.map (toString ·.toNat)) ++
    settingLines "sort" s.order ++
    ["", "[search]"] ++
    settingLines "fields" (s.searchFields?.map commaList)

/-- The settings in the file with a path, or that there is no file. -/
def settingsText (colors : Bool) (path : String) (fileExists : Bool) (s : Settings) : String :=
  block (
    [paint colors .bold (paint colors .green "Configuration"),
      "",
      "File: " ++ path,
      "Exists: " ++ Settings.flagText fileExists,
      ""] ++
    if fileExists then settingsLines s
    else ["(No config file exists. Run 'blogq config set <key> <value>' to create one.)"])

end Weblog.Report
