import SmartHome.Binding.PrintTable
import SmartHome.Machine.Program

/-!
# Which binding tables can be printed

Everything `PrintBindingTable` does is to log, and of what it logs one value
may be missing: the cluster of a unicast entry, which the specification lets
a controller leave out. The binding manager and the handler have no trouble
with such an entry, and a group's is not asked for its cluster. Where
`LOG_INF` is compiled in, the table can be printed if no unicast entry is
without a cluster, and if one is, the firmware stops at every start from
then on, since the table comes from the settings.
-/

namespace SmartHome.Binding

open Machine

variable {level : Nat} {c : Console}

/-! ## Logging -/

theorem completes_logAt {lineLevel : Nat} {line : Firmware LogLine} :
    Completes (logAt lineLevel level line) c ↔
      (lineLevel ≤ level → Completes line c) := by
  unfold logAt
  by_cases h : lineLevel ≤ level
  · rw [if_pos h, completes_bind_of_forall fun _ => completes_modify _]
    exact ⟨fun hline _ => hline, fun hline => hline h⟩
  · rw [if_neg h]
    exact iff_of_true (completes_pure _ _) (fun hle => absurd hle h)

theorem completes_value {α : Type} {a : Option α} :
    Completes (value a) c ↔ a.isSome = true := by
  cases a with
  | some a => exact iff_of_true (completes_of_ok rfl) rfl
  | none =>
      exact iff_of_false (not_completes_of_error rfl) Bool.false_ne_true

/-- Whether or not it is logged, a line without an argument leaves the table
as it is. -/
theorem run_logAt_pure (lineLevel level : Nat) (line : LogLine)
    (c : Console) :
    ∃ c', (logAt lineLevel level (pure line)).run c = .ok () c' ∧
      c'.bindingTable = c.bindingTable := by
  unfold logAt
  by_cases h : lineLevel ≤ level
  · rw [if_pos h]
    exact ⟨_, rfl, rfl⟩
  · rw [if_neg h]
    exact ⟨_, rfl, rfl⟩

theorem logged {line : Firmware LogLine} (h : Completes line c) :
    Completes (LOG_INF level line) c :=
  completes_logAt.mpr fun _ => h

/-! ## The table -/

/-- What `printEntry` takes for granted of an entry: if it is to be logged,
it has the cluster that a unicast one is logged with. -/
def Printable (level : Nat) (entry : EmberBindingTableEntry) : Prop :=
  LOG_LEVEL_INF ≤ level → entry.type = .unicast →
    entry.clusterId.isSome = true

theorem completes_printEntry (entry : EmberBindingTableEntry)
    (c : Console) :
    Completes (printEntry level entry) c ↔ Printable level entry := by
  unfold printEntry Printable
  cases htype : entry.type with
  | unicast =>
      apply completes_bind_iff
      case hp => exact logged (completes_of_ok rfl)
      case hf =>
        intro _ c'
        -- The second line is the one that reads the cluster.
        rw [LOG_INF, completes_logAt,
          completes_bind_of_forall fun _ => completes_pure _,
          completes_value]
        exact ⟨fun h hinf _ => h hinf, fun h hinf => h hinf rfl⟩
  | multicast =>
      apply completes_bind_iff
      case hp => exact logged (completes_of_ok rfl)
      case hf =>
        intro _ c'
        exact iff_of_true (logged (completes_of_ok rfl)) (by simp)
  | unused => exact iff_of_true (logged (completes_of_ok rfl)) (by simp)

theorem completes_printBindingTable (c : Console) :
    Completes (printBindingTable level) c ↔
      ∀ entry ∈ c.bindingTable, Printable level entry := by
  unfold printBindingTable
  rw [completes_bind_of_ok (EStateM.run_get c)]
  apply completes_bind_iff
  case hp => exact logged (completes_of_ok rfl)
  case hf =>
    intro _ c'
    apply completes_bind_iff
    case hp => exact completes_modify _ _
    case hf =>
      intro _ c''
      exact completes_forM completes_printEntry _ _

theorem completes_tableCommandHelper (c : Console) :
    Completes (tableCommandHelper level) c ↔
      ∀ entry ∈ c.bindingTable, Printable level entry := by
  unfold tableCommandHelper
  rw [completes_bind_of_forall fun _ => completes_pure _,
    completes_printBindingTable]

theorem completes_initInternal (init : ChipError)
    (loaded : List EmberBindingTableEntry) (c : Console) :
    Completes (initInternal level init loaded) c ↔
      ∀ entry ∈ loaded, Printable level entry := by
  obtain ⟨c₁, hstarting, -⟩ :=
    run_logAt_pure LOG_LEVEL_INF level .starting c
  unfold initInternal LOG_INF LOG_ERR
  rw [completes_bind_of_ok hstarting,
    completes_bind_of_ok (EStateM.run_modify _ _)]
  by_cases hinit : init = .noError
  · rw [if_neg fun h => h hinit,
      completes_bind_of_ok (EStateM.run_modify _ _),
      completes_printBindingTable]
  · obtain ⟨c₂, hfailed, htable⟩ :=
      run_logAt_pure LOG_LEVEL_ERR level .initFailed
        { c₁ with bindingTable := loaded }
    rw [if_pos hinit, completes_bind_of_ok hfailed,
      completes_bind_of_ok (EStateM.run_modify _ _),
      completes_printBindingTable]
    dsimp only
    rw [htable]

/-! ## The shell and the start -/

/-- The shell command and the start print the table that is there, and that
works out as long as it does for every entry of it. -/
theorem table_prints_iff (level : Nat) (c : Console) (init : ChipError)
    (loaded : List EmberBindingTableEntry) :
    (Completes (printBindingTable level) c ↔
      ∀ entry ∈ c.bindingTable, Printable level entry) ∧
      (Completes (tableCommandHelper level) c ↔
        ∀ entry ∈ c.bindingTable, Printable level entry) ∧
      (Completes (initInternal level init loaded) c ↔
        ∀ entry ∈ loaded, Printable level entry) :=
  ⟨completes_printBindingTable c, completes_tableCommandHelper c,
    completes_initInternal init loaded c⟩

/-- Bound to every cluster of endpoint 1 of a device. -/
def boundWithoutCluster : EmberBindingTableEntry where
  type := .unicast
  localEndpoint := 1
  clusterId := none
  nodeId := 1

/-- With logging on, that entry stops the shell command, and every start. -/
theorem table_not_always_printed : ¬ ∀ (level : Nat) (c : Console)
    (init : ChipError) (loaded : List EmberBindingTableEntry),
    Completes (printBindingTable level) c ∧
      Completes (tableCommandHelper level) c ∧
      Completes (initInternal level init loaded) c := by
  intro h
  obtain ⟨-, -, hstart⟩ := h LOG_LEVEL_INF { bindingTable := [] } .noError
    [boundWithoutCluster]
  exact not_completes_of_error rfl hstart

end SmartHome.Binding
