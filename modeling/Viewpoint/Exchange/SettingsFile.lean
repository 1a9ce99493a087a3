import Viewpoint.FileState
import Viewpoint.Settings
import Viewpoint.Toml.Range
import Viewpoint.Toml.Reader

/-!
# Settings files

Settings stand in sections of a settings file. Everything may be missing, but a setting has to be a
flag and a section has to be a table or, by position, an array. Everything unknown is ignored; in a
table, however, its numbers have to be in range.

The file to be read is looked for in three places, and only the first one found is read.

* `Settings.ofText?` reads a settings file.
* `SettingsFiles.settings?` are the settings that count.
-/

namespace Viewpoint

namespace Toml

/-- What a section says about a setting: what stands under its name or, in an array, at its
position. A date is a section that says nothing; other values are no sections. -/
def setting? (name : String) (position : Nat) : Toml → Option (Option Toml)
  | table _ entries => some (entries.lookup name)
  | array items => some items[position]?
  | tables items => some items.reverse[position]?
  | moment _ => some none
  | _ => none

/-- The flag that a section sets, if it is there. -/
def flag? (name : String) (position : Nat) (default : Bool) (part : Toml) : Option Bool :=
  match part.setting? name position with
  | some none => some default
  | some (some (bool value)) => some value
  | _ => none

/-- The entries of a section that say nothing about settings with the given names. What is left over
in an array is not even looked at. -/
def ignored (names : List String) : Toml → Entries
  | table _ entries => entries.filter fun entry => !names.contains entry.1
  | _ => []

end Toml

/-- The choices about selecting items in a section. -/
def SelectionSettings.ofToml? (part : Toml) : Option SelectionSettings := do
  guard (Toml.hasReadable (part.ignored ["warn_unrestricted"]))
  let warnUnrestricted ← part.flag? "warn_unrestricted" 0 true
  pure { warnUnrestricted }

/-- The choices about composing views in a section. -/
def ComposeSettings.ofToml? (part : Toml) : Option ComposeSettings := do
  guard (Toml.hasReadable (part.ignored ["parallel", "prune_dangling_relations"]))
  let parallel ← part.flag? "parallel" 0 true
  let pruneDanglingRelations ← part.flag? "prune_dangling_relations" 1 true
  pure { parallel, pruneDanglingRelations }

/-- A section that may be missing. -/
def sectionOr {α : Type} (default : α) (read : Toml → Option α) : Option Toml → Option α
  | none => some default
  | some part => read part

namespace Settings

/-- The settings of a file that has been read. -/
def ofToml? (file : Toml) : Option Settings := do
  guard (Toml.hasReadable (file.ignored ["selection", "compose"]))
  let selection ← sectionOr {} SelectionSettings.ofToml? (← file.setting? "selection" 0)
  let compose ← sectionOr {} ComposeSettings.ofToml? (← file.setting? "compose" 1)
  pure { selection, compose }

/-- The settings of a file with the given text. -/
def ofText? (text : String) : Option Settings :=
  (Toml.read? text).bind ofToml?

end Settings

/-- What is found in the places where settings may be. -/
structure SettingsFiles where
  /-- The file that the user names, if one is named. -/
  named : Option FileState := none
  /-- The file in the working directory. -/
  project : FileState := .missing
  /-- The file of the user. -/
  user : FileState := .missing

namespace SettingsFiles

/-- The settings of a file that has to be there. -/
def ofFile? (file : FileState) : Option Settings :=
  file.text?.bind Settings.ofText?

/-- The settings that count: those of the named file, or else of the first file there is, or else
the defaults. -/
def settings? (files : SettingsFiles) : Option Settings :=
  match files.named, files.project, files.user with
  | some file, _, _ => ofFile? file
  | none, .missing, .missing => some {}
  | none, .missing, file => ofFile? file
  | none, file, _ => ofFile? file

end SettingsFiles

end Viewpoint
