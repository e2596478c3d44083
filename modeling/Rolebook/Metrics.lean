import Rolebook.Store.Inventory
import Rolebook.Text.Digits

/-!
# Metrics

How many commands were evaluated, by intent and outcome, and how many permissions and roles there
are.
-/

namespace Rolebook

open Rolebook.Store (Inventory)

/-- How often something was counted under a pair of labels. -/
structure CommandCount where
  intent : String
  status : String
  count : Nat
deriving DecidableEq, Repr

/-- The counts with one more command. -/
def countCommand (intent status : String) : List CommandCount → List CommandCount
  | [] => [⟨intent, status, 1⟩]
  | count :: counts =>
    if count.intent = intent ∧ count.status = status then
      { count with count := count.count + 1 } :: counts
    else
      count :: countCommand intent status counts

/-- What is known of the commands and of the inventory. -/
structure Metrics where
  commands : List CommandCount
  inventory : Option Inventory
deriving DecidableEq, Repr

namespace Metrics

/-- Nothing is known yet. -/
def empty : Metrics :=
  ⟨[], none⟩

/-- A number of a family, with the labels that tell it from the others. -/
structure Series where
  labels : List (String × String)
  value : Nat
deriving DecidableEq, Repr

/-- Numbers that belong together. -/
structure Family where
  name : String
  type : String
  help : String
  series : List Series
deriving DecidableEq, Repr

/-- A character as it stands in the value of a label. -/
def labelChar (c : Char) : List Char :=
  if c = '\\' then ['\\', '\\']
  else if c = '"' then ['\\', '"']
  else if c = '\n' then ['\\', 'n']
  else [c]

/-- The text of a label. -/
def labelText (label : String × String) : String :=
  label.1 ++ "=\"" ++ String.ofList (label.2.toList.flatMap labelChar) ++ "\""

/-- The name of a series, with its labels if it has any. -/
def seriesName (family : String) (series : Series) : String :=
  if series.labels.isEmpty then family
  else family ++ "\x7b" ++ ",".intercalate (series.labels.map labelText) ++ "\x7d"

/-- The text of the value of a series. -/
def Series.valueText (series : Series) : String :=
  String.ofList (Text.toDigits 10 series.value)

/-- The series of the commands. -/
def commandSeries (count : CommandCount) : Series :=
  ⟨[("intent", count.intent), ("status", count.status)], count.count⟩

/-- The family of the commands. -/
def commandFamily (commands : List CommandCount) : Family :=
  ⟨"rbac_commands_total", "counter", "Free-text commands processed, labelled by intent and outcome",
    commands.map commandSeries⟩

/-- The family of the permissions. -/
def permissionFamily (inventory : Inventory) : Family :=
  ⟨"rbac_permissions_total", "gauge", "Permissions currently stored", [⟨[], inventory.permissions⟩]⟩

/-- The family of the roles. -/
def roleFamily (inventory : Inventory) : Family :=
  ⟨"rbac_roles_total", "gauge", "Roles currently stored", [⟨[], inventory.roles⟩]⟩

/-- The families that have series. -/
def families (metrics : Metrics) : List Family :=
  let commands := if metrics.commands.isEmpty then [] else [commandFamily metrics.commands]
  match metrics.inventory with
  | some inventory => commands ++ [permissionFamily inventory, roleFamily inventory]
  | none => commands

/-- The lines of a family on the page of the metrics. -/
def Family.lines (family : Family) : List String :=
  ("# HELP " ++ family.name ++ " " ++ family.help) ::
    ("# TYPE " ++ family.name ++ " " ++ family.type) ::
    family.series.map (fun series => seriesName family.name series ++ " " ++ series.valueText) ++
      [""]

/-- The page that shows the metrics. -/
def page (metrics : Metrics) : String :=
  String.join ((metrics.families.flatMap Family.lines).map fun line => line ++ "\n")

end Metrics

end Rolebook
