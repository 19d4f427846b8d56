import SmartHome.Binding.Handler

/-!
# What may be said to the shell

The tables of `shell_commands.cpp` amount to a small language of what may
follow the word `switch`, and this file writes it down. A sentence asks for
help, for the table, for nothing at all, or for an action, and in the last
case it says whether the devices or the groups are meant. Words after a
complete sentence are ignored, which is part of the grammar.
-/

namespace SmartHome.Binding

open LightSwitch (Action)

/-- The words after `onoff`: the action they ask for, if any, or `none` if
they are no sentence. -/
def onOffSentence : List String → Option (Option Action)
  | [] => some none
  | "help" :: _ => some none
  | "on" :: _ => some (some .on)
  | "off" :: _ => some (some .off)
  | "toggle" :: _ => some (some .toggle)
  | _ :: _ => none

/-- The same with a word on whom it is asked of, the devices or the groups. -/
def onOffFor (isGroup : Bool) (words : List String) :
    Option (Option (Bool × Action)) :=
  (onOffSentence words).map (·.map (isGroup, ·))

/-- The words after `groups`. -/
def groupsSentence : List String → Option (Option (Bool × Action))
  | [] => some none
  | "help" :: _ => some none
  | "onoff" :: words => onOffFor true words
  | _ :: _ => none

/-- The words after `switch`. -/
def switchSentence : List String → Option (Option (Bool × Action))
  | [] => some none
  | "help" :: _ => some none
  | "table" :: _ => some none
  | "onoff" :: words => onOffFor false words
  | "groups" :: words => groupsSentence words
  | _ :: _ => none

/-- What an action asked for in the shell is as a piece of work. -/
def shellData (mLightSwitchEndpoint : EndpointId) (asked : Bool × Action) :
    BindingData where
  endpointId := mLightSwitchEndpoint
  commandId :=
    match asked.2 with
    | .toggle => OnOff.Commands.Toggle.Id
    | .on => OnOff.Commands.On.Id
    | .off => OnOff.Commands.Off.Id
  clusterId := OnOff.Id
  isGroup := asked.1

end SmartHome.Binding
