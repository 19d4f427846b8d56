import SmartHome.LightSwitch.AppEvent

/-!
# Light switch: from a button to a bound device

`binding_handler.cpp` and `light_switch.cpp`, as functions. A user action
becomes a `BindingData`, which goes through the binding manager and comes
back to `LightSwitchChangedHandler` once for each binding it concerns; what
the handler then asks of the SDK is a `Request`. The identifiers of clusters
and commands are the ones the Matter specification assigns.

A device proxy is only ever tested for being there, so it is a `Bool`.
-/

namespace SmartHome.Binding

open LightSwitch (Action)

abbrev EndpointId := UInt16
abbrev ClusterId := UInt32
abbrev CommandId := UInt32

def OnOff.Id : ClusterId := 0x0006
def OnOff.Commands.Off.Id : CommandId := 0x00
def OnOff.Commands.On.Id : CommandId := 0x01
def OnOff.Commands.Toggle.Id : CommandId := 0x02
def LevelControl.Id : ClusterId := 0x0008
def LevelControl.Commands.MoveToLevel.Id : CommandId := 0x00

def kOnePercentBrightnessApproximation : UInt16 := 3
def kMaximumBrightness : UInt16 := 254

inductive EmberBindingType where
  | unused
  | unicast
  | multicast
deriving DecidableEq, Repr

structure EmberBindingTableEntry where
  type : EmberBindingType
  fabricIndex : UInt8 := 1
  /-- The field `local`. -/
  localEndpoint : EndpointId
  clusterId : Option ClusterId
  remote : EndpointId := 1
  nodeId : UInt64 := 0
  groupId : UInt16 := 0
deriving DecidableEq, Repr

structure BindingData where
  endpointId : EndpointId
  commandId : CommandId
  clusterId : ClusterId
  value : UInt8 := 0
  isGroup : Bool := false
deriving DecidableEq, Repr

/-- The values of `CHIP_ERROR` that the code tells apart. -/
inductive ChipError where
  | noError
  | timeout
  | other
deriving DecidableEq, Repr

inductive Command where
  | toggle
  | on
  | off
  | moveToLevel (level : UInt8)
deriving DecidableEq, Repr

/-- A command to one device, with the `dataRef` that its failure callback
captures. -/
structure Invocation where
  binding : EmberBindingTableEntry
  command : Command
  dataRef : BindingData
deriving DecidableEq, Repr

/-- What a `…ProcessCommand` function asks of the SDK. -/
inductive Request where
  | invokeCommandRequest (invocation : Invocation)
  | invokeGroupCommandRequest (binding : EmberBindingTableEntry)
      (command : Command)
deriving DecidableEq, Repr

/-! ## Processing a command -/

/-- The body of each `case`: over the session if there is a device, and to
the group otherwise. -/
def invoke (aBinding : EmberBindingTableEntry) (aDevice : Bool)
    (data : BindingData) (command : Command) : Request :=
  if aDevice then .invokeCommandRequest ⟨aBinding, command, data⟩
  else .invokeGroupCommandRequest aBinding command

def onOffProcessCommand (aCommandId : CommandId)
    (aBinding : EmberBindingTableEntry) (aDevice : Bool)
    (data : BindingData) : Option Request :=
  if aCommandId = OnOff.Commands.Toggle.Id then
    some (invoke aBinding aDevice data .toggle)
  else if aCommandId = OnOff.Commands.On.Id then
    some (invoke aBinding aDevice data .on)
  else if aCommandId = OnOff.Commands.Off.Id then
    some (invoke aBinding aDevice data .off)
  else none

def levelControlProcessCommand (aCommandId : CommandId)
    (aBinding : EmberBindingTableEntry) (aDevice : Bool)
    (data : BindingData) : Option Request :=
  if aCommandId = LevelControl.Commands.MoveToLevel.Id then
    some (invoke aBinding aDevice data (.moveToLevel data.value))
  else none

def lightSwitchChangedHandler (binding : EmberBindingTableEntry)
    (deviceProxy : Bool) (context : Option BindingData) : Option Request :=
  match context with
  | none => none
  | some data =>
      if binding.type = .multicast ∧ data.isGroup = true then
        if data.clusterId = OnOff.Id then
          onOffProcessCommand data.commandId binding false data
        else if data.clusterId = LevelControl.Id then
          levelControlProcessCommand data.commandId binding false data
        else none
      else if binding.type = .unicast ∧ data.isGroup = false then
        if data.clusterId = OnOff.Id then
          onOffProcessCommand data.commandId binding deviceProxy data
        else if data.clusterId = LevelControl.Id then
          levelControlProcessCommand data.commandId binding deviceProxy data
        else none
      else none

def isGroupBound (bindingTable : List EmberBindingTableEntry) : Bool :=
  bindingTable.any (·.type == .multicast)

/-! ## Initiating an action -/

/-- What `InitiateActionSwitch` hands to the worker. -/
def actionSwitchData (bindingTable : List EmberBindingTableEntry)
    (mLightSwitchEndpoint : EndpointId) (mAction : Action) : BindingData where
  endpointId := mLightSwitchEndpoint
  clusterId := OnOff.Id
  commandId :=
    match mAction with
    | .toggle => OnOff.Commands.Toggle.Id
    | .on => OnOff.Commands.On.Id
    | .off => OnOff.Commands.Off.Id
  isGroup := isGroupBound bindingTable

/-- The next value of `sBrightness`. -/
def nextBrightness (sBrightness : UInt16) : UInt16 :=
  let sBrightness := sBrightness + kOnePercentBrightnessApproximation
  if sBrightness > kMaximumBrightness then 0 else sBrightness

/-- What `DimmerChangeBrightness` hands to the worker, once `sBrightness` has
been stepped. -/
def changeBrightnessData (bindingTable : List EmberBindingTableEntry)
    (mLightSwitchEndpoint : EndpointId) (sBrightness : UInt16) :
    BindingData where
  endpointId := mLightSwitchEndpoint
  commandId := LevelControl.Commands.MoveToLevel.Id
  clusterId := LevelControl.Id
  value := sBrightness.toUInt8
  isGroup := isGroupBound bindingTable

end SmartHome.Binding
