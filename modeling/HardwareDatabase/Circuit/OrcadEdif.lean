/-
Module: HardwareDatabase.Circuit.OrcadEdif
Purpose: From the tree of an OrCAD netlist to components and nets (`parse_orcad_edif` of
  `src/src/circuit/parsers/edif_lite_parser.py`). The GBK codec and the decimal value of a character are the host's.
Trusted boundary: none
-/
import HardwareDatabase.Circuit.SExpr
import HardwareDatabase.Python.OrderedDict
import Mathlib.Data.List.Sort

namespace HardwareDatabase.Circuit

open Python (OrderedDict)

/-! ### The model of a circuit -/

/-- `PinRef`. -/
structure PinRef where
  refdes : String
  pin : Option String
deriving Repr, DecidableEq, Inhabited

/-- `conn.pin or ""`. -/
def PinRef.pinText (connection : PinRef) : String :=
  connection.pin.getD ""

/-- `Pin`. -/
structure Pin where
  name : String
  net : Option String
deriving Repr, DecidableEq

/-- `FieldProvenance`, with its default confidence of 1. -/
structure FieldProvenance where
  sourceFile : String
  parser : String
deriving Repr, DecidableEq

/-- `ComponentInstance`. -/
structure ComponentInstance where
  refdes : String
  libraryCell : Option String
  partNumber : Option String
  footprint : Option String
  value : Option String
  erpNumber : Option String
  pins : List Pin
  properties : OrderedDict String String
  provenance : List (String × FieldProvenance)

/-- `Net`. -/
structure Net where
  name : String
  connections : List PinRef
  netType : String
deriving Repr, DecidableEq

/-! ### Finding children -/

namespace SExpr

/-- `find_all`. -/
def findAll (node : SExpr) (name : String) : List SExpr :=
  (node.children.filterMap Child.form?).filter fun child => child.head == name

/-- `find`. -/
def find (node : SExpr) (name : String) : Option SExpr :=
  (node.findAll name).head?

end SExpr

/-! ### Values -/

/-- `text or None`: an empty text counts as missing. -/
def nonBlank (text : Option String) : Option String :=
  text.filter (· != "")

/-- `_as_text`. -/
def asText : Child → Option String
  | .string value => some value
  | .symbol value => some value
  | .node _ _ => none

/-- `_as_quoted`. -/
def asQuoted : Child → Option String
  | .string value => some value
  | _ => none

/-- `_as_symbol`. -/
def asSymbol : Child → Option String
  | .symbol value => some value
  | _ => none

/-- `_stringDisplay_value` and `_string_node_value`: the first text among the children. -/
def textValue (node : SExpr) : Option String :=
  node.children.findSome? asText

/-- The loop of `_designator_value`. -/
def designatorValueFrom : List Child → Option String
  | [] => none
  | child :: rest =>
    match asText child with
    | some text => some text
    | none =>
      match child.form? with
      | some form =>
        if form.head == "stringDisplay" then textValue form else designatorValueFrom rest
      | none => designatorValueFrom rest

/-- `_designator_value`. -/
def designatorValue (node : SExpr) : Option String :=
  designatorValueFrom node.children

/-! ### Names -/

/-- `_strip_edif_amp`. -/
def stripEdifAmp (name : String) : String :=
  match name.toList with
  | '&' :: rest => String.ofList rest
  | _ => name

/-- `_as_text(first) or (first if isinstance(first, str) else None)`. -/
def textOrSymbol (first : Child) : Option String :=
  nonBlank (asText first) <|> asSymbol first

/-- `_rename_value`. -/
def renameValue (rename : SExpr) : Option String :=
  match rename.children with
  | [] => none
  | first :: _ => (textOrSymbol first).map stripEdifAmp

/-- `_node_name`. -/
def nodeName (node : SExpr) : Option String :=
  match node.children with
  | [] => none
  | .symbol name :: _ => some (stripEdifAmp name)
  | .string name :: _ => some (stripEdifAmp name)
  | .node head children :: _ => if head == "rename" then renameValue ⟨head, children⟩ else none

/-- `_port_name`: a bundle goes by its base name. -/
def portName (port : SExpr) : Option String :=
  match port.children with
  | [] => none
  | .node head children :: _ =>
    if head == "rename" then renameValue ⟨head, children⟩
    else if head == "array" then nodeName ⟨head, children⟩
    else none
  | .symbol name :: _ => some (stripEdifAmp name)
  | .string name :: _ => some (stripEdifAmp name)

/-! ### Encoded texts -/

/-- The functions of the host that the decoding uses. -/
structure Codec where
  /-- `bytes(..).decode("gbk", errors="replace")` -/
  gbk : List Nat → String
  /-- `\d` with `int(..)` of one digit -/
  decimal : Char → Option Nat

/-- `int(digits)`. -/
def numberOf (codec : Codec) (digits : List Char) : Nat :=
  digits.foldl (fun value digit => 10 * value + (codec.decimal digit).getD 0) 0

/-- `(?:\d+%%)+\d+%` after an opening percent sign: the numbers, and the rest. The greedy group is given
back where no percent sign closes the last number. -/
def encodedRun (codec : Codec) : Nat → List Char → Option (List Nat × List Char)
  | 0, _ => none
  | fuel + 1, text =>
    let digits := text.takeWhile fun character => (codec.decimal character).isSome
    if digits.isEmpty then none
    else
      match text.dropWhile fun character => (codec.decimal character).isSome with
      | '%' :: '%' :: rest =>
        match encodedRun codec fuel rest with
        | some (numbers, left) => some (numberOf codec digits :: numbers, left)
        | none => some ([numberOf codec digits], '%' :: rest)
      | '%' :: rest => some ([numberOf codec digits], rest)
      | _ => none

/-- `_ENCODED_GBK_RE.sub(replace, value)`: a run has at least two numbers, and one that is no list of
bytes stays as it is. -/
def decodeRuns (codec : Codec) : Nat → List Char → List Char
  | 0, text => text
  | _ + 1, [] => []
  | fuel + 1, character :: rest =>
    if character = '%' then
      match encodedRun codec (rest.length + 1) rest with
      | some (numbers, left) =>
        if numbers.length < 2 then character :: decodeRuns codec fuel rest
        else if numbers.all fun code => decide (code < 256) then
          (codec.gbk numbers).toList ++ decodeRuns codec fuel left
        else
          character :: rest.take (rest.length - left.length) ++ decodeRuns codec fuel left
      | none => character :: decodeRuns codec fuel rest
    else character :: decodeRuns codec fuel rest

/-- `text.replace("37%", "%")`. -/
def replaceEscapedPercent : List Char → List Char
  | '3' :: '7' :: '%' :: rest => '%' :: replaceEscapedPercent rest
  | character :: rest => character :: replaceEscapedPercent rest
  | [] => []

/-- `_decode_orcad_text`. -/
def decodeOrcadText (codec : Codec) (value : String) : String :=
  String.ofList (replaceEscapedPercent (decodeRuns codec (value.length + 1) value.toList))

/-- `decode_edf_text` of `edf_parser.py`, on texts: the same pattern and the same replacement. -/
def decodeEdfText (codec : Codec) (value : Option String) : Option String :=
  value.map (decodeOrcadText codec)

/-! ### Properties -/

/-- The name of a property: the quoted display name, else the symbol. -/
def propertyName (prop : SExpr) : Option String :=
  match prop.find "rename" with
  | some rename =>
    match rename.children with
    | first :: _ =>
      (rename.children.findSome? fun child => nonBlank (asQuoted child)) <|> asSymbol first
    | [] => fallback
  | none => fallback
where
  fallback : Option String :=
    match prop.children with
    | head :: _ => nonBlank (asQuoted head) <|> asSymbol head
    | [] => none

/-- The value of a property. -/
def propertyValue (prop : SExpr) : Option String :=
  ((prop.find "string").bind textValue) <|> ((prop.find "stringDisplay").bind textValue)

/-- `_collect_property_map`. -/
def collectPropertyMap (codec : Codec) (parent : SExpr) : OrderedDict String String :=
  (parent.findAll "property").foldl
    (fun props prop =>
      match nonBlank (propertyName prop), propertyValue prop with
      | some name, some value =>
        props.assign name ((nonBlank (some (decodeOrcadText codec value))).getD value)
      | _, _ => props)
    OrderedDict.empty

/-! ### Cells -/

/-- The port names of a cell, view by view. -/
def cellPinNames (cell : SExpr) : List String :=
  (cell.findAll "view").flatMap fun view =>
    match view.find "interface" with
    | none => []
    | some interface => (interface.findAll "port").filterMap fun port => nonBlank (portName port)

/-- `_collect_cell_pins`. -/
def collectCellPins (root : SExpr) : OrderedDict (String × String) (List String) :=
  (root.findAll "library" ++ root.findAll "external").foldl
    (fun cellPins library =>
      match nonBlank (nodeName library) with
      | none => cellPins
      | some libraryName =>
        (library.findAll "cell").foldl
          (fun cellPins cell =>
            match nonBlank (nodeName cell) with
            | none => cellPins
            | some cellName =>
              if (cellPinNames cell).isEmpty then cellPins
              else cellPins.assign (libraryName, cellName) (cellPinNames cell))
          cellPins)
    OrderedDict.empty

/-! ### Instances -/

/-- `_RawInstance`. -/
structure RawInstance where
  instanceId : String
  refdes : String
  library : Option String
  cell : Option String
  pageName : Option String
  properties : OrderedDict String String
deriving Inhabited

/-- The designator of an instance, decoded; instances without one are skipped. -/
def instanceRefdes (codec : Codec) (node : SExpr) : Option String :=
  nonBlank ((nonBlank ((node.find "designator").bind designatorValue)).map (decodeOrcadText codec))

/-- What the walk records for an `(instance ..)` form on a page. -/
def rawInstance (codec : Codec) (node : SExpr) (currentPage : Option String) : Option RawInstance :=
  let cellRef := (node.find "viewRef").bind fun viewRef => viewRef.find "cellRef"
  let libraryRef := cellRef.bind fun cellRef => cellRef.find "libraryRef"
  (instanceRefdes codec node).map fun refdes =>
    let properties := collectPropertyMap codec node
    { instanceId := (nodeName node).getD ""
      refdes
      library := libraryRef.bind nodeName
      cell := cellRef.bind nodeName
      pageName := currentPage
      properties :=
        match nonBlank currentPage with
        | none => properties
        | some page => properties.setDefault "Page Name" page }

/-- The page of the forms inside a form. -/
def pageInside (node : SExpr) (currentPage : Option String) : Option String :=
  if node.head == "page" then nonBlank (nodeName node) <|> currentPage else currentPage

mutual

/-- `_visit` of `_walk_instances`, on the forms among the children. -/
def visitInstances (codec : Codec) (currentPage : Option String) : Child → List RawInstance
  | .node head children =>
    let page := pageInside ⟨head, children⟩ currentPage
    let own := if head == "instance" then (rawInstance codec ⟨head, children⟩ page).toList else []
    own ++ visitInstancesIn codec page children
  | .string _ => []
  | .symbol _ => []

/-- The loop over the children. -/
def visitInstancesIn (codec : Codec) (currentPage : Option String) : List Child → List RawInstance
  | [] => []
  | child :: rest =>
    visitInstances codec currentPage child ++ visitInstancesIn codec currentPage rest

end

/-- `_walk_instances`. -/
def walkInstances (codec : Codec) (root : SExpr) : List RawInstance :=
  visitInstances codec none root.asChild

/-! ### Nets -/

/-- `_RawConnection`. -/
structure RawConnection where
  instanceId : Option String
  pinName : Option String
deriving Repr, DecidableEq

/-- The pin that a `portRef` names. -/
def portRefPin (ref : SExpr) : Option String :=
  match ref.children with
  | [] => none
  | first :: _ =>
    (textOrSymbol first <|> (first.form?).bind nodeName).map stripEdifAmp

/-- The instance that a `portRef` names. -/
def portRefInstance (ref : SExpr) : Option String :=
  match ref.find "instanceRef" with
  | none => none
  | some instanceRef =>
    match instanceRef.children with
    | [] => none
    | first :: _ => (textOrSymbol first).map stripEdifAmp

/-- What the walk records for a `portRef`. -/
def rawConnection (ref : SExpr) : RawConnection :=
  { instanceId := portRefInstance ref, pinName := portRefPin ref }

/-- The `portRef` forms of a net: those directly in its first `joined` form. -/
def netPortRefs (node : SExpr) : List SExpr :=
  match node.find "joined" with
  | none => []
  | some joined => joined.findAll "portRef"

mutual

/-- `_visit` of `_walk_nets`, on the forms among the children. -/
def visitNets : Child → List (String × List RawConnection)
  | .node head children =>
    let own :=
      if head == "net" then
        match nodeName ⟨head, children⟩ with
        | some name => [(name, (netPortRefs ⟨head, children⟩).map rawConnection)]
        | none => []
      else []
    own ++ visitNetsIn children
  | .string _ => []
  | .symbol _ => []

/-- The loop over the children. -/
def visitNetsIn : List Child → List (String × List RawConnection)
  | [] => []
  | child :: rest => visitNets child ++ visitNetsIn rest

end

/-- `_walk_nets`. -/
def walkNets (root : SExpr) : List (String × List RawConnection) :=
  visitNets root.asChild

/-! ### Components and nets -/

/-- The instances by their id: the first one of an id stays. -/
def instancesById (raws : List RawInstance) : OrderedDict String RawInstance :=
  raws.foldl
    (fun byId raw => if raw.instanceId = "" then byId else byId.setDefault raw.instanceId raw)
    OrderedDict.empty

/-- `_prop`: the first value that is not blank. -/
def prop (props : OrderedDict String String) (keys : List String) : Option String :=
  keys.findSome? fun key => nonBlank (props.get? key)

/-- The pins that the cell of an instance declares. -/
def declaredPins (cellPins : OrderedDict (String × String) (List String)) (raw : RawInstance) : List Pin :=
  ((cellPins.get? (raw.library.getD "", raw.cell.getD "")).getD []).map fun name =>
    { name, net := none }

/-- The component that the first instance of a designator makes. -/
def newComponent (source : String) (raw : RawInstance) (pins : List Pin) : ComponentInstance :=
  { refdes := raw.refdes
    libraryCell := raw.cell
    partNumber := prop raw.properties
      ["Part Number", "PART_NUMBER", "Manufacturer Part Number", "MANUFACTURER_PART_NUMBER"]
    footprint := prop raw.properties ["PCB Footprint", "PCB_FOOTPRINT"]
    value := prop raw.properties ["Value", "VALUE"]
    erpNumber := prop raw.properties ["ERP NUM", "ERP_NUM"]
    pins
    properties := raw.properties
    provenance := [("refdes", ⟨source, "edif_lite"⟩), ("pins", ⟨source, "edif_lite"⟩)] }

/-- A further part of a component: its pins come after the others, and it fills in what is missing. -/
def ComponentInstance.merge (existing part : ComponentInstance) : ComponentInstance :=
  { existing with
    pins := existing.pins ++ part.pins
    properties := part.properties.entries.foldl
      (fun properties entry => properties.setDefault entry.1 entry.2) existing.properties
    partNumber := existing.partNumber <|> part.partNumber
    footprint := existing.footprint <|> part.footprint
    value := existing.value <|> part.value
    erpNumber := existing.erpNumber <|> part.erpNumber }

/-- One turn of the loop that materialises the components. -/
def addInstance (source : String) (cellPins : OrderedDict (String × String) (List String))
    (components : OrderedDict String ComponentInstance) (raw : RawInstance) : OrderedDict String ComponentInstance :=
  if raw.refdes = "" then components
  else
    let part := newComponent source raw (declaredPins cellPins raw)
    match components.get? raw.refdes with
    | none => components.assign raw.refdes part
    | some existing => components.assign raw.refdes (existing.merge part)

/-- The first free pin of the name gets the net; without one the pin is added. -/
def attach (pin net : String) : List Pin → List Pin
  | [] => [{ name := pin, net := some net }]
  | first :: rest =>
    if first.name = pin ∧ first.net = none then { first with net := some net } :: rest
    else first :: attach pin net rest

/-- The two views while the nets are wired: the components, the connections of each net, and the pairs
that were seen for it. -/
structure Wiring where
  components : OrderedDict String ComponentInstance
  connections : OrderedDict String (List PinRef)
  seen : OrderedDict String (List (String × String))

/-- The instance that a connection names. -/
def resolve (byId : OrderedDict String RawInstance) (connection : RawConnection) : Option RawInstance :=
  ((nonBlank connection.instanceId).bind byId.get?).filter fun raw => raw.refdes != ""

/-- `conn.pin_name or "?"`. -/
def RawConnection.pin (connection : RawConnection) : String :=
  (nonBlank connection.pinName).getD "?"

/-- One turn of the loop over the connections of a net. -/
def connect (byId : OrderedDict String RawInstance) (net : String) (wiring : Wiring)
    (connection : RawConnection) : Wiring :=
  match resolve byId connection with
  | none => wiring
  | some raw =>
    let key := (raw.refdes, connection.pin)
    let seen := (wiring.seen.get? net).getD []
    if key ∈ seen then wiring
    else
      let refs := (wiring.connections.get? net).getD []
      { components :=
          match wiring.components.get? raw.refdes with
          | none => wiring.components
          | some component =>
            wiring.components.assign raw.refdes
              { component with pins := attach connection.pin net component.pins }
        connections := wiring.connections.assign net (refs ++ [⟨raw.refdes, some connection.pin⟩])
        seen := wiring.seen.assign net (key :: seen) }

/-- One turn of the loop over the nets. -/
def wireNet (byId : OrderedDict String RawInstance) (wiring : Wiring) (net : String × List RawConnection) : Wiring :=
  net.2.foldl (connect byId net.1)
    { wiring with
      connections := wiring.connections.setDefault net.1 []
      seen := wiring.seen.setDefault net.1 [] }

/-- The state after all nets. -/
def wired (source : String) (codec : Codec) (root : SExpr) : Wiring :=
  let raws := walkInstances codec root
  let components := raws.foldl (addInstance source (collectCellPins root)) OrderedDict.empty
  (walkNets root).foldl (wireNet (instancesById raws))
    { components, connections := OrderedDict.empty, seen := OrderedDict.empty }

/-- `file_path.rsplit("/", 1)[-1]`. -/
def baseName (filePath : String) : String :=
  String.ofList (filePath.toList.reverse.takeWhile (· != '/')).reverse

/-- `parse_orcad_edif`, on the decoded text of the file. -/
def parseOrcadEdif (codec : Codec) (filePath : String) (sourceLabel : Option String)
    (text : List Char) : Except Failure (List ComponentInstance × List Net) := do
  let root ← parseEdif text
  let wiring := wired ((nonBlank sourceLabel).getD (baseName filePath)) codec root
  let instances := wiring.components.values.insertionSort fun left right => left.refdes ≤ right.refdes
  let nets := (wiring.connections.entries.insertionSort fun left right => left.1 ≤ right.1).map
    fun entry => { name := entry.1, connections := entry.2, netType := "signal" }
  return (instances, nets)

end HardwareDatabase.Circuit
