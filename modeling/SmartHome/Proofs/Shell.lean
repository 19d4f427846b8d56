import SmartHome.Binding.Shell
import SmartHome.Spec.Sentence

/-!
# What the shell understands

The four tables of `shell_commands.cpp` against the language of
`switchSentence`. `understands_iff` says that the handlers read exactly this
language: they schedule what the sentence asks for, once, and whatever is no
sentence gets an error and has no effect. The contract of the engine is all
that is used of it; `execCommand_cases` is the form in which every table uses
it.
-/

namespace SmartHome.Binding

open LightSwitch (Action)

def ShellEffect.data? : ShellEffect → Option BindingData
  | .scheduleWork data => some data
  | _ => none

/-- The work that some effects schedule. -/
def scheduledBy (effects : List ShellEffect) : List BindingData :=
  effects.filterMap ShellEffect.data?

/-- A result says that the words were understood, as asking for this. -/
structure Grants (mLightSwitchEndpoint : EndpointId) (r : ShellResult)
    (asked : Option (Bool × Action)) : Prop where
  noError : r.1 = .noError
  scheduled : scheduledBy r.2 =
    (asked.map (shellData mLightSwitchEndpoint)).toList

/-- The words were not understood. -/
structure Rejects (r : ShellResult) : Prop where
  error : r.1 ≠ .noError
  idle : r.2 = []

theorem shellData_injective (mLightSwitchEndpoint : EndpointId) :
    Function.Injective (shellData mLightSwitchEndpoint) := by
  intro x y h
  obtain ⟨isGroup, action⟩ := x
  obtain ⟨isGroup', action'⟩ := y
  have hgroup : isGroup = isGroup' := congrArg BindingData.isGroup h
  have hcommand := congrArg BindingData.commandId h
  subst hgroup
  cases action <;> cases action' <;> first | rfl | cases hcommand

/-- An answer grants one thing only. -/
theorem Grants.unique {mLightSwitchEndpoint : EndpointId} {r : ShellResult}
    {asked asked' : Option (Bool × Action)}
    (h : Grants mLightSwitchEndpoint r asked)
    (h' : Grants mLightSwitchEndpoint r asked') : asked = asked' := by
  have heq := h.scheduled.symm.trans h'.scheduled
  cases asked with
  | none =>
      cases asked' with
      | none => rfl
      | some x' => cases heq
  | some x =>
      cases asked' with
      | none => cases heq
      | some x' =>
          injection heq with hdata
          rw [shellData_injective _ hdata]

/-! ## The tables -/

section Tables

variable {shell : Shell} {mLightSwitchEndpoint : EndpointId}

/-- A table either has the command that is named first, or nothing is
done. -/
theorem execCommand_cases {commands : List ShellCommand}
    (hnodup : (commands.map (·.cmdName)).Nodup) (argv : List String) :
    (∃ c ∈ commands, ∃ rest, argv = c.cmdName :: rest ∧
        shell.execCommand commands argv = c.cmdFunc rest) ∨
      (∀ c ∈ commands, argv.head? ≠ some c.cmdName) ∧
        Rejects (shell.execCommand commands argv) := by
  by_cases h : ∃ c ∈ commands, argv.head? = some c.cmdName
  · obtain ⟨c, hc, hhead⟩ := h
    obtain ⟨rest, rfl⟩ := List.head?_eq_some_iff.mp hhead
    exact Or.inl ⟨c, hc, rest, rfl, shell.found hnodup hc rest⟩
  · have hnone (c : ShellCommand) (hc : c ∈ commands) :
        argv.head? ≠ some c.cmdName := fun hhead => h ⟨c, hc, hhead⟩
    obtain ⟨herror, hidle⟩ := shell.notFound hnone
    exact Or.inr ⟨hnone, herror, hidle⟩

/-- What a handler has to make of a sentence, or of words that are none. -/
structure Reads (mLightSwitchEndpoint : EndpointId)
    (sentence : Option (Option (Bool × Action))) (r : ShellResult) :
    Prop where
  grants : ∀ asked, sentence = some asked →
    Grants mLightSwitchEndpoint r asked
  rejects : sentence = none → Rejects r

theorem Grants.reads {r : ShellResult} {asked : Option (Bool × Action)}
    (h : Grants mLightSwitchEndpoint r asked) :
    Reads mLightSwitchEndpoint (some asked) r := by
  refine ⟨fun asked' heq => ?_, fun heq => ?_⟩
  · injection heq with heq
    rw [← heq]
    exact h
  · cases heq

theorem Rejects.reads {r : ShellResult} (h : Rejects r) :
    Reads mLightSwitchEndpoint none r := by
  refine ⟨fun _ heq => ?_, fun _ => h⟩
  cases heq

theorem grants_help (engine : ShellEngine) :
    Grants mLightSwitchEndpoint (.noError, [.printCommandHelp engine]) none :=
  ⟨rfl, rfl⟩

theorem grants_scheduleData (isGroup : Bool) (action : Action) :
    Grants mLightSwitchEndpoint
      (SwitchCommands.scheduleData mLightSwitchEndpoint
        (shellData mLightSwitchEndpoint (isGroup, action)).commandId isGroup)
      (some (isGroup, action)) :=
  ⟨rfl, rfl⟩

/-- A table reads a language if its commands do, each the sentences that
begin with its name, and there are no others. -/
theorem table_reads {commands : List ShellCommand}
    (hnodup : (commands.map (·.cmdName)).Nodup)
    {sentence : List String → Option (Option (Bool × Action))}
    (hcommands : ∀ c ∈ commands, ∀ rest,
      Reads mLightSwitchEndpoint (sentence (c.cmdName :: rest))
        (c.cmdFunc rest))
    (hnone : ∀ word rest, (∀ c ∈ commands, word ≠ c.cmdName) →
      sentence (word :: rest) = none)
    {argv : List String} (hargv : argv.length ≠ 0) :
    Reads mLightSwitchEndpoint (sentence argv)
      (shell.execCommand commands argv) := by
  rcases @execCommand_cases shell commands hnodup argv with
    ⟨c, hc, rest, rfl, hexec⟩ | ⟨hother, hrejects⟩
  · rw [hexec]
    exact hcommands c hc rest
  · cases argv with
    | nil => exact absurd rfl hargv
    | cons word rest =>
        rw [hnone word rest fun c hc hword => hother c hc (by rw [hword]; rfl)]
        exact hrejects.reads

/-! ## The handlers -/

/-- The two tables behind `onoff`, which differ in the flag and in what they
say of themselves. -/
def onOffTable (mLightSwitchEndpoint : EndpointId) (isGroup : Bool)
    (engine : ShellEngine) (help on off toggle : String) :
    List ShellCommand :=
  [⟨fun _ => (.noError, [.printCommandHelp engine]), "help", help⟩,
   ⟨fun _ => SwitchCommands.scheduleData mLightSwitchEndpoint
      OnOff.Commands.On.Id isGroup, "on", on⟩,
   ⟨fun _ => SwitchCommands.scheduleData mLightSwitchEndpoint
      OnOff.Commands.Off.Id isGroup, "off", off⟩,
   ⟨fun _ => SwitchCommands.scheduleData mLightSwitchEndpoint
      OnOff.Commands.Toggle.Id isGroup, "toggle", toggle⟩]

theorem onOff_reads (isGroup : Bool) (engine : ShellEngine)
    (help on off toggle : String) (argv : List String) :
    Reads mLightSwitchEndpoint (onOffFor isGroup argv)
      (if argv.length = 0 then (.noError, [.printCommandHelp engine])
      else
        shell.execCommand
          (onOffTable mLightSwitchEndpoint isGroup engine help on off toggle)
          argv) := by
  split
  next hnil =>
    rw [List.length_eq_zero_iff.mp hnil]
    exact (grants_help _).reads
  next hargv =>
    refine table_reads (by simp [onOffTable]) ?_ ?_ hargv
    · intro c hc rest
      simp only [onOffTable, List.mem_cons, List.not_mem_nil, or_false] at hc
      rcases hc with rfl | rfl | rfl | rfl
      · exact (grants_help _).reads
      · exact (grants_scheduleData isGroup .on).reads
      · exact (grants_scheduleData isGroup .off).reads
      · exact (grants_scheduleData isGroup .toggle).reads
    · intro word rest hother
      simp only [onOffTable, List.mem_cons, List.not_mem_nil, or_false,
        forall_eq_or_imp, forall_eq] at hother
      obtain ⟨hhelp, hon, hoff, htoggle⟩ := hother
      simp [onOffFor, onOffSentence]

theorem unicast_onOff_reads (argv : List String) :
    Reads mLightSwitchEndpoint (onOffFor false argv)
      (SwitchCommands.Unicast.onOffCommandHandler shell mLightSwitchEndpoint
        argv) :=
  onOff_reads false .sShellSwitchOnOffSubCommands _ _ _ _ argv

theorem group_onOff_reads (argv : List String) :
    Reads mLightSwitchEndpoint (onOffFor true argv)
      (SwitchCommands.Group.onOffCommandHandler shell mLightSwitchEndpoint
        argv) :=
  onOff_reads true .sShellSwitchGroupsOnOffSubCommands _ _ _ _ argv

theorem groups_reads (argv : List String) :
    Reads mLightSwitchEndpoint (groupsSentence argv)
      (SwitchCommands.Group.switchCommandHandler shell mLightSwitchEndpoint
        argv) := by
  unfold SwitchCommands.Group.switchCommandHandler
  split
  next hnil =>
    rw [List.length_eq_zero_iff.mp hnil]
    exact (grants_help _).reads
  next hargv =>
    refine table_reads (by simp [SwitchCommands.sSwitchGroupsSubCommands])
      ?_ ?_ hargv
    · intro c hc rest
      simp only [SwitchCommands.sSwitchGroupsSubCommands, List.mem_cons,
        List.not_mem_nil, or_false] at hc
      rcases hc with rfl | rfl
      · exact (grants_help _).reads
      · exact group_onOff_reads rest
    · intro word rest hother
      simp only [SwitchCommands.sSwitchGroupsSubCommands, List.mem_cons,
        List.not_mem_nil, or_false, forall_eq_or_imp, forall_eq] at hother
      simp [groupsSentence, hother.1, hother.2]

theorem switch_reads (argv : List String) :
    Reads mLightSwitchEndpoint (switchSentence argv)
      (SwitchCommands.switchCommandHandler shell mLightSwitchEndpoint
        argv) := by
  unfold SwitchCommands.switchCommandHandler
  split
  next hnil =>
    rw [List.length_eq_zero_iff.mp hnil]
    exact (grants_help _).reads
  next hargv =>
    refine table_reads (by simp [SwitchCommands.sSwitchSubCommands])
      ?_ ?_ hargv
    · intro c hc rest
      simp only [SwitchCommands.sSwitchSubCommands, List.mem_cons,
        List.not_mem_nil, or_false] at hc
      rcases hc with rfl | rfl | rfl | rfl
      · exact (grants_help _).reads
      · exact unicast_onOff_reads rest
      · exact groups_reads rest
      · exact Grants.reads ⟨rfl, rfl⟩
    · intro word rest hother
      simp only [SwitchCommands.sSwitchSubCommands, List.mem_cons,
        List.not_mem_nil, or_false, forall_eq_or_imp, forall_eq] at hother
      obtain ⟨hhelp, honoff, hgroups, htable⟩ := hother
      simp [switchSentence]

/-- What a line schedules, if anything. -/
theorem scheduledBy_switchCommandHandler (shell : Shell)
    (mLightSwitchEndpoint : EndpointId) (argv : List String) :
    scheduledBy (SwitchCommands.switchCommandHandler shell
        mLightSwitchEndpoint argv).2 =
      ((switchSentence argv).join.map
        (shellData mLightSwitchEndpoint)).toList := by
  have hreads := @switch_reads shell mLightSwitchEndpoint argv
  cases hsentence : switchSentence argv with
  | none =>
      rw [(hreads.rejects hsentence).idle]
      rfl
  | some asked => exact (hreads.grants asked hsentence).scheduled

end Tables

/-- The words after `switch` mean what the grammar says and nothing else
means anything: a sentence is answered without an error and schedules just
what it asks for, and words that are no sentence get an error and do
nothing. -/
theorem understands_iff (shell : Shell) (mLightSwitchEndpoint : EndpointId)
    (argv : List String) :
    let r := SwitchCommands.switchCommandHandler shell mLightSwitchEndpoint
      argv
    (∀ asked, switchSentence argv = some asked ↔
        r.1 = .noError ∧ scheduledBy r.2 =
          (asked.map (shellData mLightSwitchEndpoint)).toList) ∧
      (switchSentence argv = none → r.2 = []) := by
  intro r
  have hreads : Reads mLightSwitchEndpoint (switchSentence argv) r :=
    switch_reads argv
  refine ⟨fun asked => ⟨fun h => ?_, fun hr => ?_⟩,
    fun h => (hreads.rejects h).idle⟩
  · exact ⟨(hreads.grants asked h).noError, (hreads.grants asked h).scheduled⟩
  · cases h : switchSentence argv with
    | none => exact absurd hr.1 (hreads.rejects h).error
    | some asked' =>
        rw [(hreads.grants asked' h).unique ⟨hr.1, hr.2⟩]

end SmartHome.Binding
