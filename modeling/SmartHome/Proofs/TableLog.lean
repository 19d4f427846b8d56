import Mathlib.Data.List.Forall2
import SmartHome.Proofs.PrintTable

/-!
# What the printed table tells

The log of `PrintBindingTable` is a text that is meant to be read: a size,
and then for each entry a heading with its number and a line with its fields.
Printing stops at an entry that cannot be printed, with its heading as the
last line, so the log is that of the entries ahead of it (`tableLog`).

Such a log can be read back, entry by entry (`readLog_tableLog`). What is
read is not all of the entry. The fields go through a cast to `int`, which
takes the fabric, the endpoints, the cluster and the group as they are, but
of the node's 64 bits only the lower half; and the cluster of an entry for a
group, which the manager does match on, is not printed at all. So two tables
print the same exactly if they have the same entries up to what the log leaves
out.
-/

namespace SmartHome.Binding

open Machine

/-! ## The cast -/

theorem toInt_eq_iff {n m : Nat} :
    toInt n = toInt m ↔ n % UInt32.size = m % UInt32.size := by
  have hcast (n : Nat) : (toInt n).toUInt32 = UInt32.ofNat n := by
    rw [toInt, Int32.toUInt32_ofNat']
  refine ⟨?_, ?_⟩
  · intro h
    have hu := congrArg (fun x => x.toUInt32.toNat) h
    simpa only [hcast, UInt32.toNat_ofNat'] using hu
  · intro h
    have hu : UInt32.ofNat n = UInt32.ofNat m :=
      UInt32.toNat_inj.mp (by simpa only [UInt32.toNat_ofNat'] using h)
    exact congrArg UInt32.toInt32 hu

/-- A number of 32 bits at most is all there. -/
theorem toInt_inj {n m : Nat} (hn : n < UInt32.size) (hm : m < UInt32.size) :
    toInt n = toInt m ↔ n = m := by
  rw [toInt_eq_iff, Nat.mod_eq_of_lt hn, Nat.mod_eq_of_lt hm]

theorem toInt_uint8 {a b : UInt8} :
    toInt a.toNat = toInt b.toNat ↔ a = b := by
  have hlt (c : UInt8) : c.toNat < UInt32.size :=
    Nat.lt_trans c.toNat_lt (by decide)
  rw [toInt_inj (hlt a) (hlt b), UInt8.toNat_inj]

theorem toInt_uint16 {a b : UInt16} :
    toInt a.toNat = toInt b.toNat ↔ a = b := by
  have hlt (c : UInt16) : c.toNat < UInt32.size :=
    Nat.lt_trans c.toNat_lt (by decide)
  rw [toInt_inj (hlt a) (hlt b), UInt16.toNat_inj]

theorem toInt_uint32 {a b : UInt32} :
    toInt a.toNat = toInt b.toNat ↔ a = b := by
  rw [toInt_inj a.toNat_lt b.toNat_lt, UInt32.toNat_inj]

/-! ## An entry -/

/-- What is to be read of an entry. -/
inductive Shown where
  | unicast (fabric localEndpoint clusterId remoteEndpointId nodeId : Int32)
  | group (fabric localEndpoint remoteEndpointId groupId : Int32)
  | unused
deriving DecidableEq, Repr

def Shown.lines (i : UInt8) : Shown → List LogLine
  | .unicast fabric localEndpoint clusterId remoteEndpointId nodeId =>
      [.unicast i,
        .unicastEntry fabric localEndpoint clusterId remoteEndpointId nodeId]
  | .group fabric localEndpoint remoteEndpointId groupId =>
      [.group i, .groupEntry fabric localEndpoint remoteEndpointId groupId]
  | .unused => [.unused i]

def Shown.type : Shown → EmberBindingType
  | .unicast .. => .unicast
  | .group .. => .multicast
  | .unused => .unused

namespace EmberBindingTableEntry

/-- `none` for a unicast entry without a cluster. -/
def shown? (entry : EmberBindingTableEntry) : Option Shown :=
  match entry.type with
  | .unicast =>
      entry.clusterId.map fun clusterId =>
        .unicast (toInt entry.fabricIndex.toNat)
          (toInt entry.localEndpoint.toNat) (toInt clusterId.toNat)
          (toInt entry.remote.toNat) (toInt entry.nodeId.toNat)
  | .multicast =>
      some (.group (toInt entry.fabricIndex.toNat)
        (toInt entry.localEndpoint.toNat) (toInt entry.remote.toNat)
        (toInt entry.groupId.toNat))
  | .unused => some .unused

/-- The two have everything in common that is printed. That leaves out the
upper half of an entry's node and its group if it is for a device, the cluster
and the node if it is for a group, and all but the kind if it is unused. -/
structure Alike (a b : EmberBindingTableEntry) : Prop where
  type : a.type = b.type
  fabricIndex : a.type ≠ .unused → a.fabricIndex = b.fabricIndex
  localEndpoint : a.type ≠ .unused → a.localEndpoint = b.localEndpoint
  remote : a.type ≠ .unused → a.remote = b.remote
  clusterId : a.type = .unicast → a.clusterId = b.clusterId
  nodeId : a.type = .unicast →
    a.nodeId.toNat % UInt32.size = b.nodeId.toNat % UInt32.size
  groupId : a.type = .multicast → a.groupId = b.groupId

end EmberBindingTableEntry

section Entry

variable {a b entry : EmberBindingTableEntry} {level : Nat}

theorem isSome_shown_iff (hlevel : LOG_LEVEL_INF ≤ level) :
    entry.shown?.isSome = true ↔ Printable level entry := by
  unfold EmberBindingTableEntry.shown? Printable
  cases entry.type with
  | unicast => simp [hlevel]
  | multicast => simp
  | unused => simp

theorem type_of_shown {shown : Shown} (h : entry.shown? = some shown) :
    shown.type = entry.type := by
  unfold EmberBindingTableEntry.shown? at h
  cases htype : entry.type with
  | unicast =>
      rw [htype] at h
      obtain ⟨clusterId, -, rfl⟩ := Option.map_eq_some_iff.mp h
      rfl
  | multicast | unused =>
      rw [htype] at h
      cases h
      rfl

/-- Entries that can be printed look the same exactly if they are alike. -/
theorem shown_eq_iff (ha : a.shown?.isSome = true)
    (hb : b.shown?.isSome = true) : a.shown? = b.shown? ↔ a.Alike b := by
  by_cases htype : a.type = b.type
  case neg =>
    refine iff_of_false (fun h => htype ?_) (fun h => htype h.type)
    obtain ⟨shown, hshown⟩ := Option.isSome_iff_exists.mp ha
    rw [← type_of_shown hshown, ← type_of_shown (h ▸ hshown)]
  unfold EmberBindingTableEntry.shown? at ha hb ⊢
  rw [← htype] at hb ⊢
  cases hkind : a.type with
  | unicast =>
      rw [hkind] at ha hb
      obtain ⟨j, hj⟩ := Option.isSome_iff_exists.mp
        (Option.isSome_map.symm.trans ha)
      obtain ⟨k, hk⟩ := Option.isSome_iff_exists.mp
        (Option.isSome_map.symm.trans hb)
      simp only [hj, hk, Option.map_some, Option.some_inj,
        Shown.unicast.injEq, toInt_uint8, toInt_uint16, toInt_uint32,
        @toInt_eq_iff a.nodeId.toNat]
      refine ⟨?_, ?_⟩
      · intro h
        obtain ⟨hfabric, hlocal, hcluster, hremote, hnode⟩ := h
        exact ⟨htype, fun _ => hfabric, fun _ => hlocal, fun _ => hremote,
          fun _ => by rw [hj, hk, hcluster], fun _ => hnode,
          fun h => absurd (hkind.symm.trans h) (by decide)⟩
      · intro h
        have hused : a.type ≠ .unused := by rw [hkind]; decide
        refine ⟨h.fabricIndex hused, h.localEndpoint hused, ?_,
          h.remote hused, h.nodeId hkind⟩
        have hcluster := h.clusterId hkind
        rw [hj, hk] at hcluster
        exact Option.some_inj.mp hcluster
  | multicast =>
      simp only [Option.some_inj, Shown.group.injEq, toInt_uint8,
        toInt_uint16]
      refine ⟨?_, ?_⟩
      · intro h
        obtain ⟨hfabric, hlocal, hremote, hgroup⟩ := h
        exact ⟨htype, fun _ => hfabric, fun _ => hlocal, fun _ => hremote,
          fun h => absurd (hkind.symm.trans h) (by decide),
          fun h => absurd (hkind.symm.trans h) (by decide), fun _ => hgroup⟩
      · intro h
        have hused : a.type ≠ .unused := by rw [hkind]; decide
        exact ⟨h.fabricIndex hused, h.localEndpoint hused, h.remote hused,
          h.groupId hkind⟩
  | unused =>
      refine iff_of_true rfl ?_
      have hunused {P : Prop} (h : a.type ≠ .unused) : P := absurd hkind h
      exact ⟨htype, hunused, hunused, hunused,
        fun h => absurd (hkind.symm.trans h) (by decide),
        fun h => absurd (hkind.symm.trans h) (by decide),
        fun h => absurd (hkind.symm.trans h) (by decide)⟩

end Entry

/-! ## A table -/

/-- The log of the entries from number `i` on. -/
def entriesLog (i : UInt8) : List EmberBindingTableEntry → List LogLine
  | [] => []
  | entry :: entries =>
      match entry.shown? with
      | some shown => shown.lines i ++ entriesLog (i + 1) entries
      | none => [.unicast i]

def tableLog (bindingTable : List EmberBindingTableEntry) : List LogLine :=
  .tableSize bindingTable.length :: entriesLog 0 bindingTable

section Print

variable {level : Nat}

/-- What a line is logged by, if it can be computed. -/
theorem run_LOG_INF (hlevel : LOG_LEVEL_INF ≤ level)
    {line : Firmware LogLine} {l : LogLine} {c c' : Console}
    (h : line.run c = .ok l c') :
    (LOG_INF level line).run c = .ok () { c' with log := c'.log ++ [l] } := by
  rw [LOG_INF, logAt, if_pos hlevel, run_bind_of_ok h]
  rfl

theorem run_heading (hlevel : LOG_LEVEL_INF ≤ level)
    (line : UInt8 → LogLine) (c : Console) :
    (LOG_INF level do return line (← postIncrement)).run c =
      .ok () { c with i := c.i + 1, log := c.log ++ [line c.i] } := by
  have hline : (do return line (← postIncrement) : Firmware LogLine).run c =
      .ok (line c.i) { c with i := c.i + 1 } := rfl
  exact run_LOG_INF hlevel hline

theorem run_printEntry (hlevel : LOG_LEVEL_INF ≤ level)
    {entry : EmberBindingTableEntry} {shown : Shown}
    (h : entry.shown? = some shown) (c : Console) :
    (printEntry level entry).run c =
      .ok () { c with i := c.i + 1, log := c.log ++ shown.lines c.i } := by
  unfold EmberBindingTableEntry.shown? at h
  unfold printEntry
  cases htype : entry.type with
  | unicast =>
      rw [htype] at h
      obtain ⟨clusterId, hcluster, rfl⟩ := Option.map_eq_some_iff.mp h
      dsimp only
      rw [run_bind_of_ok (run_heading hlevel .unicast c), hcluster]
      refine (run_LOG_INF hlevel (by rfl)).trans ?_
      simp [Shown.lines]
  | multicast =>
      rw [htype] at h
      cases h
      dsimp only
      rw [run_bind_of_ok (run_heading hlevel .group c)]
      refine (run_LOG_INF hlevel (by rfl)).trans ?_
      simp [Shown.lines]
  | unused =>
      rw [htype] at h
      cases h
      exact run_heading hlevel .unused c

theorem run_printEntry_aborts (hlevel : LOG_LEVEL_INF ≤ level)
    {entry : EmberBindingTableEntry} (h : entry.shown? = none)
    (c : Console) :
    (printEntry level entry).run c =
      .error .verifyOrDie
        { c with i := c.i + 1, log := c.log ++ [.unicast c.i] } := by
  unfold EmberBindingTableEntry.shown? at h
  unfold printEntry
  cases htype : entry.type with
  | unicast =>
      rw [htype] at h
      have hcluster := Option.map_eq_none_iff.mp h
      dsimp only
      rw [run_bind_of_ok (run_heading hlevel .unicast c), hcluster, LOG_INF,
        logAt, if_pos hlevel]
      rfl
  | multicast =>
      rw [htype] at h
      cases h
  | unused =>
      rw [htype] at h
      cases h

theorem log_entries (hlevel : LOG_LEVEL_INF ≤ level)
    (entries : List EmberBindingTableEntry) (c : Console) :
    (left (forM entries (printEntry level)) c).log =
      c.log ++ entriesLog c.i entries := by
  induction entries generalizing c with
  | nil => exact (List.append_nil _).symm
  | cons entry entries ih =>
      rw [List.forM_cons, entriesLog]
      cases h : entry.shown? with
      | some shown =>
          rw [left_bind_of_ok (run_printEntry hlevel h c), ih]
          exact List.append_assoc _ _ _
      | none =>
          rw [left_of_error
            (run_bind_of_error (run_printEntry_aborts hlevel h c))]

/-- Whatever the table, this is what is in the log when the printing ends. -/
theorem log_printBindingTable (hlevel : LOG_LEVEL_INF ≤ level)
    (c : Console) :
    (left (printBindingTable level) c).log =
      c.log ++ tableLog c.bindingTable := by
  unfold printBindingTable
  have hsize : (LOG_INF level (return .tableSize c.bindingTable.length)).run c =
      .ok () { c with log := c.log ++ [.tableSize c.bindingTable.length] } :=
    run_LOG_INF hlevel (by rfl)
  rw [left_bind_of_ok (EStateM.run_get c), left_bind_of_ok hsize,
    left_bind_of_ok (EStateM.run_modify _ _), log_entries hlevel]
  exact List.append_assoc _ _ _

end Print

/-! ## Reading it back -/

/-- The entries in a log of entries. -/
def readLog : List LogLine → List Shown
  | .unicast _ :: .unicastEntry fabric localEndpoint clusterId
      remoteEndpointId nodeId :: log =>
        .unicast fabric localEndpoint clusterId remoteEndpointId nodeId ::
          readLog log
  | .group _ :: .groupEntry fabric localEndpoint remoteEndpointId groupId ::
      log =>
        .group fabric localEndpoint remoteEndpointId groupId :: readLog log
  | .unused _ :: log => .unused :: readLog log
  | _ => []

theorem readLog_lines (i : UInt8) (shown : Shown) (log : List LogLine) :
    readLog (shown.lines i ++ log) = shown :: readLog log := by
  cases shown <;> rfl

/-- What is read back is what there is to be seen of the entries. -/
theorem readLog_entriesLog (i : UInt8)
    {entries : List EmberBindingTableEntry}
    (h : ∀ entry ∈ entries, entry.shown?.isSome = true) :
    (readLog (entriesLog i entries)).map some =
      entries.map EmberBindingTableEntry.shown? := by
  induction entries generalizing i with
  | nil => rfl
  | cons entry entries ih =>
      obtain ⟨hentry, hentries⟩ := List.forall_mem_cons.mp h
      obtain ⟨shown, hshown⟩ := Option.isSome_iff_exists.mp hentry
      rw [entriesLog, hshown]
      dsimp only
      rw [readLog_lines, List.map_cons, List.map_cons, ih _ hentries, hshown]

/-! ## Two tables -/

theorem entriesLog_congr (i : UInt8) {as bs : List EmberBindingTableEntry}
    (h : as.map EmberBindingTableEntry.shown? =
      bs.map EmberBindingTableEntry.shown?) :
    entriesLog i as = entriesLog i bs := by
  induction as generalizing i bs with
  | nil => rw [List.map_eq_nil_iff.mp h.symm]
  | cons a as ih =>
      cases bs with
      | nil => cases h
      | cons b bs =>
          obtain ⟨hhead, htail⟩ := List.cons.inj h
          rw [entriesLog, entriesLog, hhead, ih (i + 1) htail]

theorem map_shown_eq_iff {as bs : List EmberBindingTableEntry}
    (has : ∀ a ∈ as, a.shown?.isSome = true)
    (hbs : ∀ b ∈ bs, b.shown?.isSome = true) :
    as.map EmberBindingTableEntry.shown? =
        bs.map EmberBindingTableEntry.shown? ↔
      List.Forall₂ EmberBindingTableEntry.Alike as bs := by
  induction as generalizing bs with
  | nil => cases bs <;> simp
  | cons a as ih =>
      cases bs with
      | nil => simp
      | cons b bs =>
          obtain ⟨ha, has⟩ := List.forall_mem_cons.mp has
          obtain ⟨hb, hbs⟩ := List.forall_mem_cons.mp hbs
          rw [List.map_cons, List.map_cons, List.cons.injEq,
            List.forall₂_cons, shown_eq_iff ha hb, ih has hbs]

/-- From the same log before, two tables that can be printed leave the same
log exactly if their entries are alike, one by one. -/
theorem same_log_iff {level : Nat} (hlevel : LOG_LEVEL_INF ≤ level)
    {c c' : Console} (hlog : c.log = c'.log)
    (h : ∀ entry ∈ c.bindingTable, Printable level entry)
    (h' : ∀ entry ∈ c'.bindingTable, Printable level entry) :
    (left (printBindingTable level) c).log =
        (left (printBindingTable level) c').log ↔
      List.Forall₂ EmberBindingTableEntry.Alike c.bindingTable
        c'.bindingTable := by
  have hshown (entry) (hmem : entry ∈ c.bindingTable) :=
    (isSome_shown_iff hlevel).mpr (h entry hmem)
  have hshown' (entry) (hmem : entry ∈ c'.bindingTable) :=
    (isSome_shown_iff hlevel).mpr (h' entry hmem)
  rw [log_printBindingTable hlevel, log_printBindingTable hlevel, hlog,
    List.append_cancel_left_eq, ← map_shown_eq_iff hshown hshown']
  refine ⟨?_, ?_⟩
  · intro hsame
    have hentries := (List.cons.inj hsame).2
    rw [← readLog_entriesLog 0 hshown, hentries,
      readLog_entriesLog 0 hshown']
  · intro hsame
    have hlength := congrArg List.length hsame
    rw [List.length_map, List.length_map] at hlength
    rw [tableLog, tableLog, hlength, entriesLog_congr 0 hsame]

/-- Two nodes whose ids have their lower half in common. -/
theorem same_log_two_nodes :
    let bound (nodeId : UInt64) : Console :=
      { bindingTable :=
          [{ type := .unicast, localEndpoint := 1, clusterId := some 6,
             nodeId := nodeId }] }
    (left (printBindingTable LOG_LEVEL_INF) (bound 0x100000001)).log =
      (left (printBindingTable LOG_LEVEL_INF) (bound 0x200000001)).log := by
  intro bound
  have hprintable (nodeId : UInt64) : ∀ entry ∈ (bound nodeId).bindingTable,
      Printable LOG_LEVEL_INF entry := by
    intro entry hmem _ _
    rw [List.mem_singleton.mp hmem]
    rfl
  exact (same_log_iff (Nat.le_refl _) rfl (hprintable _) (hprintable _)).mpr
    (.cons ⟨rfl, fun _ => rfl, fun _ => rfl, fun _ => rfl, fun _ => rfl,
      fun _ => by decide, fun _ => rfl⟩ .nil)

end SmartHome.Binding
