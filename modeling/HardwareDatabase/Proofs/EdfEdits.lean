/-
Module: HardwareDatabase.Proofs.EdfEdits
Purpose: The check of a text edit compares numbers of components and nets only, so an edit may move a pin; one that
  leaves the forms as they are from which the netlist is made keeps it.
Trusted boundary: none
-/
import HardwareDatabase.Attachments.EdfRevision
import HardwareDatabase.Proofs.PagePartition
import HardwareDatabase.Relational.Table
import Mathlib.Data.Finset.Card

namespace HardwareDatabase.Circuit

open Python (OrderedDict)

/-! ### The forms of a text

A text is compared by its `instance` and `net` forms, at whatever depth they stand. The walks of the parser meet them in
reading order. -/

mutual

/-- The forms with a head, each before those inside it. -/
def formsOf (head : String) : Child → List SExpr
  | .node own children => (if own == head then [⟨own, children⟩] else []) ++ formsIn head children
  | .string _ => []
  | .symbol _ => []

/-- The forms with a head in a list of children. -/
def formsIn (head : String) : List Child → List SExpr
  | [] => []
  | child :: rest => formsOf head child ++ formsIn head rest

end

/-- The id and the designator of an `instance` form that has a designator. -/
def instanceLabel (codec : Codec) (form : SExpr) : Option (String × String) :=
  (instanceRefdes codec form).map fun refdes => ((nodeName form).getD "", refdes)

/-- The ids and the designators of a text. -/
def instanceLabels (codec : Codec) (root : SExpr) : List (String × String) :=
  (formsOf "instance" root.asChild).filterMap (instanceLabel codec)

/-- The first designator with an id. -/
def designatorOf (codec : Codec) (root : SExpr) (id : String) : Option String :=
  ((instanceLabels codec root).find? fun label => decide (label.1 = id)).map Prod.snd

/-- What a `net` form with a name lists. -/
def netEntry (form : SExpr) : Option (String × List RawConnection) :=
  (nodeName form).map fun name => (name, (netPortRefs form).map rawConnection)

mutual

private theorem visitInstances_labels (codec : Codec) (page : Option String) : ∀ child : Child,
    (visitInstances codec page child).map (fun raw => (raw.instanceId, raw.refdes)) =
      (formsOf "instance" child).filterMap (instanceLabel codec)
  | .node head children => by
    rw [visitInstances, formsOf, List.map_append, List.filterMap_append, visitInstancesIn_labels]
    congr 1
    split
    · rw [rawInstance, List.filterMap_cons, instanceLabel]
      cases instanceRefdes codec ⟨head, children⟩ with
      | none => rfl
      | some => rfl
    · rfl
  | .string _ => rfl
  | .symbol _ => rfl

private theorem visitInstancesIn_labels (codec : Codec) (page : Option String) : ∀ children : List Child,
    (visitInstancesIn codec page children).map (fun raw => (raw.instanceId, raw.refdes)) =
      (formsIn "instance" children).filterMap (instanceLabel codec)
  | [] => rfl
  | child :: rest => by
    rw [visitInstancesIn, formsIn, List.map_append, List.filterMap_append, visitInstances_labels,
      visitInstancesIn_labels]

end

mutual

private theorem visitNets_entries : ∀ child : Child, visitNets child = (formsOf "net" child).filterMap netEntry
  | .node head children => by
    rw [visitNets, formsOf, List.filterMap_append, visitNetsIn_entries]
    congr 1
    split
    · rw [List.filterMap_cons, netEntry]
      cases nodeName ⟨head, children⟩ with
      | none => rfl
      | some => rfl
    · rfl
  | .string _ => rfl
  | .symbol _ => rfl

private theorem visitNetsIn_entries : ∀ children : List Child,
    visitNetsIn children = (formsIn "net" children).filterMap netEntry
  | [] => rfl
  | child :: rest => by
    rw [visitNetsIn, formsIn, List.filterMap_append, visitNets_entries, visitNetsIn_entries]

end

/-- The designator that a connection leads to. -/
def designated (codec : Codec) (root : SExpr) (connection : RawConnection) : Option String :=
  (nonBlank connection.instanceId).bind (designatorOf codec root)

variable {codec : Codec}

section Wirings

variable {byId : OrderedDict String RawInstance}

variable {wiring : Wiring}

/-- The pin that a connection puts on its net. -/
def Puts (byId : OrderedDict String RawInstance) (connection : RawConnection) (ref : PinRef) : Prop :=
  ∃ raw, resolve byId connection = some raw ∧ ref = ⟨raw.refdes, some connection.pin⟩

variable {ref : PinRef} {name : String}

/-- What the nets add to a wiring. -/
structure Reads (byId : OrderedDict String RawInstance) (entries : List (String × List RawConnection))
    (before after : Wiring) : Prop where
  components : ∀ refdes, (after.components.get? refdes).isSome = (before.components.get? refdes).isSome
  names : ∀ name, (after.connections.get? name).isSome ↔
    (before.connections.get? name).isSome ∨ name ∈ entries.map Prod.fst
  refs : ∀ name ref, ref ∈ after.refsOf name → ref ∈ before.refsOf name ∨
    ∃ entry ∈ entries, entry.1 = name ∧ ∃ connection ∈ entry.2, Puts byId connection ref

end Wirings

variable {instances : List ComponentInstance} {text : List Char} {filePath : String}

end HardwareDatabase.Circuit

namespace HardwareDatabase.Attachments

open Circuit Python Relational

/-! ### Netlists -/

/-- The instances and the nets of a file, each with names of its own. -/
structure Netlist where
  instances : List ComponentInstance
  nets : List Net
  refdes : (instances.map ComponentInstance.refdes).Nodup
  netNames : (nets.map Net.name).Nodup

variable {refdes : String} {netlist : Netlist}

namespace Netlist

/-- The designators. -/
def components (netlist : Netlist) : Finset String :=
  (netlist.instances.map ComponentInstance.refdes).toFinset

/-- The names of the nets. -/
def names (netlist : Netlist) : Finset String :=
  (netlist.nets.map Net.name).toFinset

/-- The pins of the nets. -/
def connections (netlist : Netlist) : Finset (String × PinRef) :=
  (netlist.nets.flatMap fun net => net.connections.map fun pin => (net.name, pin)).toFinset

end Netlist

section Edits

variable {tools : EdfTools} {parentPath childPath : String} {parent child : List Char}

end Edits

/-! ### Kept wiring

An edit keeps the wiring if it leaves what the forms write as it is, in whatever order and however often they write it.
Where SpyDrNet reads the file, its instances and their pins are compared instead of the forms. -/

/-- An instance of the designator has the pin. -/
def Holds (found : List ComponentInstance) (refdes : String) (pin : Pin) : Prop :=
  ∃ component ∈ found, component.refdes = refdes ∧ pin ∈ component.pins

section Kept

variable {tools : EdfTools} {filePath : String} {text : List Char} {netlist : Netlist}

end Kept

end HardwareDatabase.Attachments
