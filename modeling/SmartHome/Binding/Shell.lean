import SmartHome.Binding.Handler

/-!
# Light switch: the shell commands

`shell_commands.cpp`, the other way to ask for something: four tables of
commands, three of them reached from a command of another. A handler gets
the words after its own name. The SDK's shell is not part of the sources; of
`Engine::ExecCommand` only its contract is taken, which are the laws of
`Shell`: it runs the command that the first word names on the words after
it, and answers with an error if no command has that name.

The handlers that schedule work do not test their allocation, so that a
failed one is no case of theirs.
-/

namespace SmartHome.Binding

/-- The engines of the file, each with a table of its own. -/
inductive ShellEngine where
  | sShellSwitchSubCommands
  | sShellSwitchOnOffSubCommands
  | sShellSwitchGroupsSubCommands
  | sShellSwitchGroupsOnOffSubCommands
deriving DecidableEq, Repr

/-- What a handler does. -/
inductive ShellEffect where
  /-- `ForEachCommand(Shell::PrintCommandHelp, nullptr)`. -/
  | printCommandHelp (engine : ShellEngine)
  | printBindingTable
  | scheduleWork (data : BindingData)
deriving DecidableEq, Repr

abbrev ShellResult := ChipError × List ShellEffect

structure ShellCommand where
  cmdFunc : List String → ShellResult
  cmdName : String
  cmdHelp : String

/-- `Engine::ExecCommand` by its contract. -/
structure Shell where
  execCommand : List ShellCommand → List String → ShellResult
  found : ∀ {commands : List ShellCommand} {c : ShellCommand},
    (commands.map (·.cmdName)).Nodup → c ∈ commands →
    ∀ argv, execCommand commands (c.cmdName :: argv) = c.cmdFunc argv
  notFound : ∀ {commands : List ShellCommand} {argv : List String},
    (∀ c ∈ commands, argv.head? ≠ some c.cmdName) →
    (execCommand commands argv).1 ≠ .noError ∧
      (execCommand commands argv).2 = []

namespace SwitchCommands

section Unicast

variable (mLightSwitchEndpoint : EndpointId)

/-- What the six handlers have in common. -/
def scheduleData (commandId : CommandId) (isGroup : Bool) : ShellResult :=
  (.noError, [.scheduleWork
    { endpointId := mLightSwitchEndpoint
      commandId
      clusterId := OnOff.Id
      isGroup }])

namespace Unicast

def onOffHelpHandler : ShellResult :=
  (.noError, [.printCommandHelp .sShellSwitchOnOffSubCommands])

def onCommandHandler : ShellResult :=
  scheduleData mLightSwitchEndpoint OnOff.Commands.On.Id false

def offCommandHandler : ShellResult :=
  scheduleData mLightSwitchEndpoint OnOff.Commands.Off.Id false

def toggleCommandHandler : ShellResult :=
  scheduleData mLightSwitchEndpoint OnOff.Commands.Toggle.Id false

end Unicast

namespace Group

def switchHelpHandler : ShellResult :=
  (.noError, [.printCommandHelp .sShellSwitchGroupsSubCommands])

def onOffHelpHandler : ShellResult :=
  (.noError, [.printCommandHelp .sShellSwitchGroupsOnOffSubCommands])

def onCommandHandler : ShellResult :=
  scheduleData mLightSwitchEndpoint OnOff.Commands.On.Id true

def offCommandHandler : ShellResult :=
  scheduleData mLightSwitchEndpoint OnOff.Commands.Off.Id true

def toggleCommandHandler : ShellResult :=
  scheduleData mLightSwitchEndpoint OnOff.Commands.Toggle.Id true

end Group

def switchHelpHandler : ShellResult :=
  (.noError, [.printCommandHelp .sShellSwitchSubCommands])

def tableCommandHelper : ShellResult := (.noError, [.printBindingTable])

def sSwitchOnOffSubCommands : List ShellCommand :=
  [{ cmdFunc := fun _ => Unicast.onOffHelpHandler
     cmdName := "help"
     cmdHelp := "Usage : switch ononff [on|off|toggle]" },
   { cmdFunc := fun _ => Unicast.onCommandHandler mLightSwitchEndpoint
     cmdName := "on"
     cmdHelp := "Sends on command to bound lighting app" },
   { cmdFunc := fun _ => Unicast.offCommandHandler mLightSwitchEndpoint
     cmdName := "off"
     cmdHelp := "Sends off command to bound lighting app" },
   { cmdFunc := fun _ => Unicast.toggleCommandHandler mLightSwitchEndpoint
     cmdName := "toggle"
     cmdHelp := "Sends toggle command to bound lighting app" }]

def sSwichGroupsOnOffSubCommands : List ShellCommand :=
  [{ cmdFunc := fun _ => Group.onOffHelpHandler
     cmdName := "help"
     cmdHelp := "Usage: switch groups onoff [on|off|toggle]" },
   { cmdFunc := fun _ => Group.onCommandHandler mLightSwitchEndpoint
     cmdName := "on"
     cmdHelp := "Sends on command to bound Group" },
   { cmdFunc := fun _ => Group.offCommandHandler mLightSwitchEndpoint
     cmdName := "off"
     cmdHelp := "Sends off command to bound Group" },
   { cmdFunc := fun _ => Group.toggleCommandHandler mLightSwitchEndpoint
     cmdName := "toggle"
     cmdHelp := "Sends toggle command to bound Group" }]

end Unicast

section Commands

variable (shell : Shell) (mLightSwitchEndpoint : EndpointId)

def Unicast.onOffCommandHandler (argv : List String) : ShellResult :=
  if argv.length = 0 then onOffHelpHandler
  else shell.execCommand (sSwitchOnOffSubCommands mLightSwitchEndpoint) argv

def Group.onOffCommandHandler (argv : List String) : ShellResult :=
  if argv.length = 0 then onOffHelpHandler
  else
    shell.execCommand (sSwichGroupsOnOffSubCommands mLightSwitchEndpoint) argv

def sSwitchGroupsSubCommands : List ShellCommand :=
  [{ cmdFunc := fun _ => Group.switchHelpHandler
     cmdName := "help"
     cmdHelp := "switch a group of bounded lightning apps" },
   { cmdFunc := Group.onOffCommandHandler shell mLightSwitchEndpoint
     cmdName := "onoff"
     cmdHelp := "Usage: switch groups onoff [on|off|toggle]" }]

def Group.switchCommandHandler (argv : List String) : ShellResult :=
  if argv.length = 0 then Group.switchHelpHandler
  else
    shell.execCommand (sSwitchGroupsSubCommands shell mLightSwitchEndpoint)
      argv

def sSwitchSubCommands : List ShellCommand :=
  [{ cmdFunc := fun _ => SwitchCommands.switchHelpHandler
     cmdName := "help"
     cmdHelp := "Switch commands" },
   { cmdFunc := Unicast.onOffCommandHandler shell mLightSwitchEndpoint
     cmdName := "onoff"
     cmdHelp := "Usage: switch onoff [on|off|toggle]" },
   { cmdFunc := Group.switchCommandHandler shell mLightSwitchEndpoint
     cmdName := "groups"
     cmdHelp := "Usage: switch groups onoff [on|off|toggle]" },
   { cmdFunc := fun _ => tableCommandHelper
     cmdName := "table"
     cmdHelp := "Print a binding table" }]

/-- The handler of `switch`, on the words after it. -/
def switchCommandHandler (argv : List String) : ShellResult :=
  if argv.length = 0 then SwitchCommands.switchHelpHandler
  else shell.execCommand (sSwitchSubCommands shell mLightSwitchEndpoint) argv

end Commands

end SwitchCommands

/-! ## A shell that keeps the contract -/

/-- The table is looked through from its start. -/
def execFirstMatch (commands : List ShellCommand) :
    List String → ShellResult
  | [] => (.other, [])
  | name :: argv =>
      match commands.find? (·.cmdName == name) with
      | some c => c.cmdFunc argv
      | none => (.other, [])

/-- A name that stands in the table once finds its own command. -/
theorem find?_cmdName {commands : List ShellCommand} {c : ShellCommand}
    (hnodup : (commands.map (·.cmdName)).Nodup) (hc : c ∈ commands) :
    commands.find? (·.cmdName == c.cmdName) = some c := by
  induction commands with
  | nil => cases hc
  | cons c' commands ih =>
      rw [List.map_cons, List.nodup_cons] at hnodup
      rcases List.mem_cons.mp hc with rfl | hc
      · exact List.find?_cons_of_pos (beq_self_eq_true _)
      · have hne : c'.cmdName ≠ c.cmdName := by
          intro heq
          exact hnodup.1 (heq ▸ List.mem_map_of_mem hc)
        rw [List.find?_cons_of_neg (by simpa using hne)]
        exact ih hnodup.2 hc

def Shell.firstMatch : Shell where
  execCommand := execFirstMatch
  found := by
    intro commands c hnodup hc argv
    rw [execFirstMatch, find?_cmdName hnodup hc]
  notFound := by
    intro commands argv h
    cases argv with
    | nil => simp [execFirstMatch]
    | cons name argv =>
        have hfind : commands.find? (·.cmdName == name) = none := by
          refine List.find?_eq_none.mpr fun c hc heq => ?_
          exact h c hc (by rw [eq_of_beq heq]; rfl)
        simp [execFirstMatch, hfind]

end SmartHome.Binding
