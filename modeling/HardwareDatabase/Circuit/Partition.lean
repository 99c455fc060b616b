/-
Module: HardwareDatabase.Circuit.Partition
Purpose: The modules of a netlist (`src/src/circuit/parsers/edf_partition.py`). The digit tables of the host are
  parameters.
Trusted boundary: none
-/
import HardwareDatabase.Circuit.OrcadEdif
import HardwareDatabase.Python.Groups
import HardwareDatabase.Python.Patterns

namespace HardwareDatabase.Circuit

open Python

/-- The functions of the host that the partition uses. -/
structure Host where
  /-- `character.isdigit()` -/
  isDigit : Char → Bool
  /-- `\d` -/
  isDecimal : Char → Bool

/-- `CircuitModule`, as the partition makes it. -/
structure CircuitModule where
  moduleId : String
  name : String
  strategy : String
  instances : List String
  nets : List String
  connectivityDescription : String
deriving Repr, DecidableEq

section Partition

variable (host : Host)

/-! ### Keys -/

/-- `_instance_page_key`. -/
def instancePageKey (refdes : String) : String :=
  let digits := refdes.toList.filter host.isDigit
  if 3 ≤ digits.length then
    (nonBlank (some (String.ofList (digits.take (digits.length - 2))))).getD "0"
  else "misc"

/-- `_PAGE_NAME_PROPS`. -/
def pageNameProps : List String :=
  ["Page Name", "PAGE_NAME", "Page", "PAGE"]

/-- `_instance_page_name`. -/
def instancePageName (component : ComponentInstance) : Option String :=
  (prop component.properties pageNameProps).map strip

/-! ### Names -/

/-- One of the words, in any case. -/
def oneOf : List String → Pattern
  | [] => .one fun _ => false
  | word :: words => .alt (.word ignoringCase word.toList) (oneOf words)

/-- A word with a digit behind it. -/
def numbered (word : String) : Pattern :=
  .seq (.word ignoringCase word.toList) (.one host.isDecimal)

/-- `_CATEGORY_RULES`: a label, and whether its expression is found in a text. -/
def categoryRules : List (String × (List Char → Bool)) :=
  [("MCU/SoC", (oneOf ["mcu", "eyeq", "eq6", "soc", "cortex", "processor", "seq6l"]).search),
    ("DDR/Memory", (oneOf ["ddr", "lpddr", "flash", "eeprom", "nor", "nand", "memory"]).search),
    ("Power/PMIC", (Pattern.alt (numbered host "mp")
      (oneOf ["pmic", "regulator", "ldo", "dcdc", "buck", "tps", "lm", "power"])).search),
    ("Ethernet/PHY", (oneOf ["eth", "phy", "rgmii", "mac", "marvell", "realtek", "88e"]).search),
    ("CAN/LIN", (oneOf ["can", "lin", "tja", "tle"]).search),
    ("Clock/Oscillator", (Pattern.alt (numbered host "si5")
      (oneOf ["clk", "crystal", "xtal", "osc", "pll"])).search),
    ("USB", (oneOf ["usb"]).search),
    ("MIPI/Camera", (oneOf ["mipi", "csi", "camera", "serdes", "max9", "fpdlink", "gmsl"]).search),
    ("Connector/Header", (oneOf ["conn", "header", "jack", "rj45", "ffc"]).search),
    -- this expression is anchored
    ("LED/Indicator", fun text => !((oneOf ["led"]).remainders text).isEmpty),
    ("Diode/TVS", (oneOf ["diode", "tvs", "schottky", "zener"]).search),
    ("Transistor/MOSFET", (oneOf ["mosfet", "nfet", "pfet", "bjt", "transistor"]).search)]

/-- The label of the first rule that is found in the texts of an instance. -/
def category (component : ComponentInstance) : Option String :=
  let property (key : String) := (component.properties.get? key).getD ""
  let text := " ".intercalate [component.libraryCell.getD "", property "Description", property "DESCRIPTION",
    property "Part Type", property "PART_TYPE"]
  ((categoryRules host).find? fun rule => rule.2 text.toList).map Prod.fst

/-- `_categorise`. -/
def categorise (instances : List ComponentInstance) : Option String :=
  mostCommon (instances.filterMap (category host))

/-- What stands between the number and the rest of a page name. -/
def isSeparator (character : Char) : Bool :=
  character == '_' || character == '-' || character == ' '

/-- `^(\d+)[_\- ]+(.+)$` on a text without spaces around it: the number and the rest. Where only separators follow the
number, the last of them is the rest. -/
def numberedPage (text : List Char) : Option (List Char × List Char) :=
  let number := text.takeWhile host.isDecimal
  let after := text.dropWhile host.isDecimal
  let separators := after.takeWhile isSeparator
  let rest := after.dropWhile isSeparator
  let rest := if rest = [] then separators.tail.getLast?.toList else rest
  if number = [] ∨ separators = [] ∨ rest = [] ∨ '\n' ∈ rest then none else some (number, rest)

/-- `_pretty_page_name`. -/
def prettyPageName (raw : String) : String :=
  let text := strip raw
  match numberedPage host text.toList with
  | some (number, rest) => "Page " ++ String.ofList number ++ " (" ++ String.ofList rest ++ ")"
  | none => if text ≠ "" ∧ text.toList.all host.isDigit then "Page " ++ text else text

/-- The letters that a designator starts with, in upper case. -/
def refPrefix (refdes : String) : String :=
  let letters := refdes.toList.takeWhile Char.isAlpha
  if letters = [] then "X" else String.ofList (letters.map Char.toUpper)

/-- `prefix_counts.most_common(1)[0][0]`. -/
def dominantPrefix (members : List ComponentInstance) : String :=
  (mostCommon (members.map fun component => refPrefix component.refdes)).getD "X"

/-- A name with the category of its members, or with their dominant prefix. -/
def describedName (base : String) (category : Option String) (members : List ComponentInstance) : String :=
  match nonBlank category with
  | some category => base ++ " · " ++ category
  | none => base ++ " · " ++ dominantPrefix members ++ "*"

/-- `_module_name`. -/
def moduleName (pageName : String) (members : List ComponentInstance) : String :=
  describedName (prettyPageName host pageName) (categorise host members) members

/-! ### Modules -/

/-- The groups that the connections of a net touch. -/
def touchedGroups (instanceToGroup : OrderedDict String String) (net : Net) : List String :=
  net.connections.filterMap fun connection => nonBlank (instanceToGroup.get? connection.refdes)

/-- The modules of the groups of a key, in the order of the keys. -/
def modulesOf (strategy : String) (moduleId : Nat → String) (nameOf : String → List ComponentInstance → String)
    (keyOf : ComponentInstance → String) (instances : List ComponentInstance) (nets : List Net) :
    List CircuitModule :=
  let instanceToGroup := OrderedDict.ofEntries (instances.map fun component => (component.refdes, keyOf component))
  let groupNets := nets.flatMap fun net => (touchedGroups instanceToGroup net).map fun name => (name, net.name)
  let names := (grouped keyOf instances).keys.mergeSort fun left right => decide (left ≤ right)
  (names.zipIdx 1).map fun entry =>
    let members := group keyOf instances entry.1
    let related := sortedSet ((group Prod.fst groupNets entry.1).map Prod.snd)
    let name := nameOf entry.1 members
    { moduleId := moduleId entry.2
      name
      strategy
      instances := (members.map (·.refdes)).mergeSort fun left right => decide (left ≤ right)
      nets := related
      connectivityDescription :=
        name ++ ": " ++ toString members.length ++ " instances, " ++ toString related.length ++ " related nets." }

/-- `f"{index:02d}"`. -/
def twoDigits (index : Nat) : String :=
  if index < 10 then "0" ++ toString index else toString index

/-- `_partition_by_page`: there are no modules when an instance has no page. -/
def partitionByPage (instances : List ComponentInstance) (nets : List Net) : List CircuitModule :=
  if ∃ component ∈ instances, nonBlank (instancePageName component) = none then []
  else
    modulesOf "orcad_page_name" (fun index => "edf_page_" ++ twoDigits index) (moduleName host)
      (fun component => (instancePageName component).getD "") instances nets

/-- `_partition_by_refdes_page`: the category is that of the instances that have the designators of the group. -/
def partitionByRefdesDigits (instances : List ComponentInstance) (nets : List Net) : List CircuitModule :=
  let byRefdes := OrderedDict.ofEntries (instances.map fun component => (component.refdes, component))
  modulesOf "refdes_page" (fun index => "edf_ref_page_" ++ toString index)
    (fun groupId members =>
      describedName ("Group " ++ groupId)
        (categorise host (members.filterMap fun component => byRefdes.get? component.refdes)) members)
    (fun component => instancePageKey host component.refdes) instances nets

/-- `partition_by_refdes_page`. -/
def partitionByRefdesPage (instances : List ComponentInstance) (nets : List Net) : List CircuitModule :=
  let byPage := partitionByPage host instances nets
  if byPage ≠ [] then byPage else partitionByRefdesDigits host instances nets

end Partition

end HardwareDatabase.Circuit
