/-
Module: HardwareDatabase.Circuit.QueryEngine
Purpose: The queries on a stored design (`CircuitQueryEngine` of `src/src/circuit/query_engine.py`). The letter case
  of the host and the order of its sets are parameters.
Trusted boundary: none
-/
import HardwareDatabase.Circuit.Partition
import HardwareDatabase.Python.Locations
import HardwareDatabase.Relational.Breadth

namespace HardwareDatabase.Circuit

open Python

/-- `DesignFile`, as the queries read it. -/
structure DesignFile where
  fileName : String
  fileType : String

/-- `CircuitDesign`, as the queries read it. -/
structure CircuitDesign where
  designId : String
  files : List DesignFile := []
  instances : List ComponentInstance
  nets : List Net
  modules : List CircuitModule := []

/-- The letter case of the host. -/
structure Casing where
  /-- `text.upper()` -/
  upper : String → String
  /-- `text.lower()` -/
  lower : String → String

/-! ### Normal forms -/

/-- `[A-Z0-9]`. -/
def isKeyChar (character : Char) : Bool :=
  ('A' ≤ character && character ≤ 'Z') || ('0' ≤ character && character ≤ '9')

variable (casing : Casing)

/-- `_normalize_entity`. -/
def normalizeEntity (value : String) : String :=
  String.ofList ((casing.upper value).toList.filter isKeyChar)

/-- `str(int(digits))`, of any number of digits: the limit that `sys.set_int_max_str_digits` sets is left out. -/
def withoutLeadingZeros (digits : List Char) : String :=
  toString (digits.foldl (fun number digit => 10 * number + (digit.toNat - 48)) 0)

/-- `_normalize_refdes`. -/
def normalizeRefdes (value : String) : String :=
  let text := (strip value).map fun character => if character = '\\' then '/' else character
  let cleaned := ((afterLast '/' text).toList.filter Char.isAlphanum).map Char.toUpper
  let letters := cleaned.takeWhile Char.isUpper
  let digits := (cleaned.dropWhile Char.isUpper).takeWhile Char.isDigit
  let suffix := (cleaned.dropWhile Char.isUpper).dropWhile Char.isDigit
  if letters = [] ∨ digits = [] then String.ofList cleaned
  else String.ofList letters ++ withoutLeadingZeros digits ++ String.ofList suffix

/-! ### Lookups -/

/-- The test of `_find_net_by_name`. -/
def netMatches (name : String) (net : Net) : Bool :=
  casing.lower net.name == casing.lower (strip name) ||
    normalizeEntity casing net.name == normalizeEntity casing name

/-- `_find_net_by_name`. -/
def findNetByName (design : CircuitDesign) (name : String) : Option Net :=
  design.nets.find? (netMatches casing name)

/-- The test of `_find_instance_by_refdes`. -/
def refdesMatches (refdes : String) (component : ComponentInstance) : Bool :=
  normalizeRefdes component.refdes == normalizeRefdes refdes

/-- `_find_instance_by_refdes`. -/
def findInstanceByRefdes (design : CircuitDesign) (refdes : String) : Option ComponentInstance :=
  design.instances.find? (refdesMatches refdes)

/-- The test of `_find_module_by_id_or_name`. -/
def moduleMatches (idOrName : String) (candidate : CircuitModule) : Bool :=
  let lowered := casing.lower (strip idOrName)
  normalizeEntity casing candidate.moduleId == normalizeEntity casing idOrName ||
    normalizeEntity casing candidate.name == normalizeEntity casing idOrName ||
    (lowered != "" && casing.lower candidate.name == lowered)

/-- `_find_module_by_id_or_name`. -/
def findModuleByIdOrName (design : CircuitDesign) (idOrName : String) : Option CircuitModule :=
  design.modules.find? (moduleMatches casing idOrName)

namespace CircuitDesign

variable (design : CircuitDesign)

/-- `{net.name: net for net in design.nets}`. -/
def netByName : OrderedDict String Net :=
  .ofEntries (design.nets.map fun net => (net.name, net))

/-- `{inst.refdes: inst for inst in design.instances}`. -/
def instanceByRefdes : OrderedDict String ComponentInstance :=
  .ofEntries (design.instances.map fun component => (component.refdes, component))

/-- `_module_membership(design).get(refdes, [])`: ids and names of modules. -/
def membership (refdes : String) : List (String × String) :=
  (group Prod.fst (design.modules.flatMap fun listed =>
    listed.instances.map fun member => (member, listed.moduleId, listed.name)) refdes).map Prod.snd

end CircuitDesign

/-- `f"{conn.refdes}.{conn.pin}" if conn.pin else conn.refdes`. -/
def PinRef.endpoint (connection : PinRef) : String :=
  if connection.pinText = "" then connection.refdes else connection.refdes ++ "." ++ connection.pinText

/-! ### Instances -/

/-- A pin in an answer. -/
structure PinRow where
  name : String
  netName : Option String
  peers : List String
deriving Repr, DecidableEq

/-- The answer of `get_instance_connections`. -/
structure InstanceConnections where
  designId : String
  sourceFiles : List String
  refdes : String
  libraryCell : Option String
  partNumber : Option String
  pins : List PinRow
deriving Repr, DecidableEq

/-- The connection belongs to an instance with this normal form. -/
def sameRefdes (refdes : String) (connection : PinRef) : Bool :=
  normalizeRefdes connection.refdes == normalizeRefdes refdes

/-- The endpoints of a net at other instances. -/
def peersOn (refdes : String) (net : Net) : List String :=
  (net.connections.filter fun connection => !sameRefdes refdes connection).map PinRef.endpoint

/-- `net_of_pin`: the last net of each pin stays. -/
def netOfPin (design : CircuitDesign) (refdes : String) : OrderedDict String String :=
  .ofEntries (design.nets.flatMap fun net =>
    (net.connections.filter fun connection => sameRefdes refdes connection && connection.pinText != "").map
      fun connection => (connection.pinText, net.name))

/-- `get_instance_connections` of the instance that is found. -/
def connectionsOf (design : CircuitDesign) (found : ComponentInstance) : InstanceConnections :=
  let pinNets := netOfPin design found.refdes
  let pinNames := if found.pins = [] then pinNets.keys else found.pins.map (·.name)
  { designId := design.designId
    sourceFiles := design.files.map (·.fileName)
    refdes := found.refdes
    libraryCell := found.libraryCell
    partNumber := found.partNumber
    pins := pinNames.map fun name =>
      let netName := pinNets.get? name
      { name
        netName
        peers := ((nonBlank netName).bind design.netByName.get?).elim [] (peersOn found.refdes) } }

/-- `get_instance_connections`. -/
def instanceConnections (design : CircuitDesign) (refdes : String) : Option InstanceConnections :=
  (findInstanceByRefdes design refdes).map (connectionsOf design)

/-- The answer of `get_instance_detail`. -/
structure InstanceDetail where
  designId : String
  sourceFiles : List String
  refdes : String
  libraryCell : Option String
  partNumber : Option String
  footprint : Option String
  value : Option String
  erpNumber : Option String
  properties : OrderedDict String String
  pinCount : Nat
  pins : List PinRow
  netNames : List String

/-- `get_instance_detail` of the instance that is found. -/
def detailOf (design : CircuitDesign) (found : ComponentInstance) : InstanceDetail :=
  let pins := found.pins.map fun pin =>
    { name := pin.name
      netName := pin.net
      peers := ((design.netByName.get? (pin.net.getD "")).elim [] (peersOn found.refdes)).take 20 }
  { designId := design.designId
    sourceFiles := design.files.map (·.fileName)
    refdes := found.refdes
    libraryCell := found.libraryCell
    partNumber := found.partNumber
    footprint := found.footprint
    value := found.value
    erpNumber := found.erpNumber
    properties := found.properties
    pinCount := found.pins.length
    pins
    netNames := pins.filterMap fun row => nonBlank row.netName }

/-- `get_instance_detail`. -/
def instanceDetail (design : CircuitDesign) (refdes : String) : Option InstanceDetail :=
  (findInstanceByRefdes design refdes).map (detailOf design)

/-! ### Nets -/

/-- A connection in the answer of `get_net_connections`. -/
structure ConnectionRow where
  refdes : String
  pin : Option String
  endpoint : String
  libraryCell : Option String
  partNumber : Option String
  moduleIds : List String
  moduleNames : List String
deriving Repr, DecidableEq

/-- The answer of `get_net_connections`. -/
structure NetConnections where
  designId : String
  sourceFiles : List String
  netName : String
  netType : String
  connectionCount : Nat
  connections : List ConnectionRow
deriving Repr, DecidableEq

/-- `get_net_connections` of the net that is found. -/
def connectionsOn (design : CircuitDesign) (net : Net) : NetConnections where
  designId := design.designId
  sourceFiles := design.files.map (·.fileName)
  netName := net.name
  netType := net.netType
  connectionCount := net.connections.length
  connections := net.connections.map fun connection =>
    let component := design.instanceByRefdes.get? connection.refdes
    let members := design.membership connection.refdes
    { refdes := connection.refdes
      pin := connection.pin
      endpoint := connection.endpoint
      libraryCell := component.bind (·.libraryCell)
      partNumber := component.bind (·.partNumber)
      moduleIds := members.map Prod.fst
      moduleNames := members.map Prod.snd }

/-- `get_net_connections`. -/
def netConnections (design : CircuitDesign) (netName : String) : Option NetConnections :=
  (findNetByName casing design netName).map (connectionsOn design)

/-! ### Modules -/

/-- An instance in a row of a module; only the designator of one that the design does not have. -/
structure InstanceRow where
  refdes : String
  libraryCell : Option String := none
  partNumber : Option String := none
  footprint : Option String := none
  value : Option String := none
deriving Repr, DecidableEq

/-- A row of `_module_to_row`. -/
structure ModuleRow where
  designId : String
  moduleId : String
  name : String
  strategy : String
  instanceCount : Nat
  netCount : Nat
  instances : List InstanceRow
  nets : List String
  connectivityDescription : String
deriving Repr, DecidableEq

/-- `_module_to_row`: only the first twenty nets. -/
def moduleToRow (design : CircuitDesign) (listed : CircuitModule) (maxInstances : Nat) : ModuleRow where
  designId := design.designId
  moduleId := listed.moduleId
  name := listed.name
  strategy := listed.strategy
  instanceCount := listed.instances.length
  netCount := listed.nets.length
  instances := (listed.instances.take maxInstances).map fun refdes =>
    match design.instanceByRefdes.get? refdes with
    | none => { refdes }
    | some component =>
      { refdes := component.refdes
        libraryCell := component.libraryCell
        partNumber := component.partNumber
        footprint := component.footprint
        value := component.value }
  nets := listed.nets.take 20
  connectivityDescription := listed.connectivityDescription

/-- `get_module_detail`. -/
def moduleDetail (design : CircuitDesign) (idOrName : String) : Option ModuleRow :=
  (findModuleByIdOrName casing design idOrName).map fun found => moduleToRow design found 1000

/-- `_normalize_refdes(conn.refdes) in module_refs`. -/
def inModule (listed : CircuitModule) (connection : PinRef) : Bool :=
  (listed.instances.map normalizeRefdes).contains (normalizeRefdes connection.refdes)

/-- The nets that a module lists and the design has. -/
def listedNets (design : CircuitDesign) (listed : CircuitModule) : List Net :=
  listed.nets.filterMap design.netByName.get?

/-- The modules other than this one that a connection is in. -/
def otherModules (design : CircuitDesign) (listed : CircuitModule) (connection : PinRef) : List (String × String) :=
  (design.membership connection.refdes).filter fun entry => entry.1 != listed.moduleId

/-- A net in the answer of `get_module_interfaces`. -/
structure InterfaceRow where
  netName : String
  netType : String
  externalEndpoints : List String
  externalEndpointCount : Nat
  externalModules : List String
deriving Repr, DecidableEq

/-- The interfaces of `get_module_interfaces`. -/
def moduleInterfaces (design : CircuitDesign) (listed : CircuitModule) : List InterfaceRow :=
  (listedNets design listed).filterMap fun net =>
    let outside := net.connections.filter fun connection => !inModule listed connection
    if outside = [] then none
    else some
      { netName := net.name
        netType := net.netType
        externalEndpoints := (outside.take 30).map PinRef.endpoint
        externalEndpointCount := outside.length
        externalModules := sortedSet ((outside.flatMap (otherModules design listed)).map Prod.snd) }

/-- A module in the answer of `find_connected_modules`. -/
structure ConnectedModule where
  moduleId : String
  moduleName : String
  sharedNets : List String
deriving Repr, DecidableEq

/-- The entries that `find_connected_modules` makes, each the id and the name of a module and a net. -/
def touches (design : CircuitDesign) (listed : CircuitModule) : List (String × String × String) :=
  (listedNets design listed).flatMap fun net =>
    (net.connections.filter fun connection => !inModule listed connection).flatMap fun connection =>
      (otherModules design listed connection).map fun entry => (entry.1, entry.2, net.name)

/-- The connected modules of `find_connected_modules`. -/
def connectedModules (design : CircuitDesign) (listed : CircuitModule) : List ConnectedModule :=
  (grouped Prod.fst (touches design listed)).entries.map fun entry =>
    { moduleId := entry.1
      moduleName := (entry.2.head?.map (·.2.1)).getD ""
      sharedNets := sortedSet (entry.2.map (·.2.2)) }

/-- A row of `search_module_connections`: a net of one module, or one that two modules share. -/
structure ModuleConnection where
  designId : String
  fromModule : String
  toModule : Option String
  net : String
  netType : String
  connectionCount : Nat
  connections : List String
deriving Repr, DecidableEq

/-- A row for a net. -/
def moduleConnection (design : CircuitDesign) (fromModule : String) (toModule : Option String) (netName : String) :
    ModuleConnection :=
  let net := design.netByName.get? netName
  { designId := design.designId
    fromModule
    toModule
    net := netName
    netType := (net.map (·.netType)).getD ""
    connectionCount := (net.map (·.connections.length)).getD 0
    connections := (net.map fun net => (net.connections.take 20).map fun connection =>
      connection.refdes ++ "." ++ connection.pin.getD "None").getD [] }

/-- The rows for each pair of matching modules. -/
def pairConnections (design : CircuitDesign) : List ModuleRow → List ModuleConnection
  | [] => []
  | left :: rest =>
    (rest.flatMap fun right =>
      (sortedSet (left.nets.filter right.nets.contains)).map
        (moduleConnection design left.name (some right.name))) ++ pairConnections design rest

/-- The rows of one design, for the modules of it that match. -/
def designConnections (design : CircuitDesign) (matching : List ModuleRow) : List ModuleConnection :=
  match matching with
  | [only] =>
    (only.nets.filter design.netByName.contains).map (moduleConnection design only.name none)
  | _ => pairConnections design matching

/-- The loop of `search_module_connections` over the designs. -/
def searchConnections (matching : List ModuleRow) (limit : Nat) :
    List CircuitDesign → List ModuleConnection → List ModuleConnection
  | [], results => results.take limit
  | design :: rest, results =>
    let results := results ++
      designConnections design (matching.filter fun row => row.designId == design.designId)
    if limit ≤ results.length then results.take limit else searchConnections matching limit rest results

/-! ### Signal paths -/

/-- The order in which the host goes through a set of texts, made of a list. -/
structure SetOrder where
  list : List String → List String
  mem_list : ∀ values value, value ∈ list values ↔ value ∈ values
  distinct : ∀ values, (list values).Nodup

/-- `_resolve_entity_to_refdes`. -/
def resolveEntityToRefdes (order : SetOrder) (design : CircuitDesign) (entity : String) : List String :=
  let refs := (design.instances.filter (refdesMatches entity)).map (·.refdes)
  if refs ≠ [] then order.list refs
  else (findModuleByIdOrName casing design entity).elim [] fun found => order.list found.instances

/-- What the loop over the pairs of a net adds to the peers of each of the two: the component that has the peer, the
peer, and the name and the type of the net. -/
def pairEntries (net : Net) : List String → List (String × String × String × String)
  | [] => []
  | source :: rest =>
    ((rest.filter (· != source)).flatMap fun target =>
      [(source, target, net.name, net.netType), (target, source, net.name, net.netType)]) ++ pairEntries net rest

/-- `[conn.refdes for conn in net.connections if conn.refdes]`. -/
def componentsOn (net : Net) : List String :=
  (net.connections.map (·.refdes)).filter (· != "")

/-- `_instance_adjacency(design).get(refdes, [])`. -/
def instanceAdjacency (design : CircuitDesign) (refdes : String) : List (String × String × String) :=
  (group Prod.fst (design.nets.flatMap fun net => pairEntries net (componentsOn net)) refdes).map Prod.snd

/-- `_first_module_name`. -/
def firstModuleName (design : CircuitDesign) (refdes : String) : Option String :=
  (design.membership refdes).head?.map Prod.snd

/-- A hop in the answer of `trace_signal_path`. -/
structure SignalHop where
  source : String
  target : String
  net : String
  netType : String
  sourceModule : Option String
  targetModule : Option String
deriving Repr, DecidableEq

/-- The answer of `trace_signal_path`. -/
structure SignalPath where
  designId : String
  sourceFiles : List String
  fromEntity : String
  toEntity : String
  hopCount : Nat
  path : List String
  hops : List SignalHop
  modulePath : List String
deriving Repr, DecidableEq

/-- `trace_signal_path`. Each component is taken from the queue at most once. -/
def traceSignalPath (order : SetOrder) (design : CircuitDesign) (fromEntity toEntity : String)
    (_maxDepth : Nat) : Option SignalPath :=
  let sources := resolveEntityToRefdes casing order design fromEntity
  let targets := resolveEntityToRefdes casing order design toEntity
  let entries := design.nets.flatMap fun net => pairEntries net (componentsOn net)
  if fromEntity = "" ∨ toEntity = "" ∨ sources = [] ∨ targets = [] then none
  else
    (Relational.breadthFirst (instanceAdjacency design) (sources.length + entries.length) sources targets).map
      fun way =>
        { designId := design.designId
          sourceFiles := design.files.map (·.fileName)
          fromEntity
          toEntity
          hopCount := way.2.length
          path := way.1
          hops := way.2.map fun hop =>
            { source := hop.before
              target := hop.after
              net := hop.label.1
              netType := hop.label.2
              sourceModule := firstModuleName design hop.before
              targetModule := firstModuleName design hop.after }
          modulePath := ((way.1.filterMap (firstModuleName design)).filter (· != "")).eraseDups }

end HardwareDatabase.Circuit
