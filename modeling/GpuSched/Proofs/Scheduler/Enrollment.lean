import GpuSched.Scheduler.State
import Mathlib.Data.List.Perm.Subperm

/-!
# Memberships

A scheduler keeps one fact in several places: the state of a channel and the active set of its
runlist, the group of a channel and the members of the group, the counter of a group and its bit in
the active groups, and what is not in use in two pools. `Enrollment` is all of this without the
tables that hold it. It is consistent when the places agree, counted when the counters and the bits
of the groups agree with the active set, and stopped when no faulted channel is active. Each change
that a scheduler makes keeps these properties.
-/
namespace GpuSched

/-- What a channel slot has to do with runlists and groups. -/
structure Seat where
  state : ChannelState
  runlist : Nat
  group : Option Nat

/-- What a group slot has to do with runlists and channels. -/
structure Roster where
  inUse : Bool
  runlist : Nat
  members : List Nat
  active : UInt32

/-- Who belongs where. -/
structure Enrollment where
  channel : Nat → Option Seat
  group : Nat → Option Roster
  /-- Whether there is a runlist of a number. -/
  listed : Nat → Bool
  /-- Whether a channel is in the active set of a runlist. -/
  active : Nat → Nat → Bool
  /-- Whether a group is among the active groups of a runlist. -/
  activeGroup : Nat → Nat → Bool
  freeChannel : Nat → Bool
  freeGroup : Nat → Bool

namespace Enrollment

variable {m : Enrollment} {id groupId runlist : Nat} {seat : Seat} {roster : Roster}

/-- Another seat for a channel. -/
def setSeat (m : Enrollment) (id : Nat) (seat : Seat) : Enrollment :=
  { m with channel := fun other => if other = id then some seat else m.channel other }

/-- Another roster for a group. -/
def setRoster (m : Enrollment) (id : Nat) (roster : Roster) : Enrollment :=
  { m with group := fun other => if other = id then some roster else m.group other }

/-- A channel put into an active set or taken out of it. -/
def setActive (m : Enrollment) (runlist id : Nat) (add : Bool) : Enrollment :=
  { m with
    active := fun list other => if list = runlist ∧ other = id then add else m.active list other }

/-- A group put among the active groups of a runlist or taken away from them. -/
def setActiveGroup (m : Enrollment) (runlist id : Nat) (add : Bool) : Enrollment :=
  { m with
    activeGroup := fun list other =>
      if list = runlist ∧ other = id then add else m.activeGroup list other }

/-- A channel put into the pool or taken out of it. -/
def setFreeChannel (m : Enrollment) (id : Nat) (free : Bool) : Enrollment :=
  { m with freeChannel := fun other => if other = id then free else m.freeChannel other }

/-- A group put into the pool or taken out of it. -/
def setFreeGroup (m : Enrollment) (id : Nat) (free : Bool) : Enrollment :=
  { m with freeGroup := fun other => if other = id then free else m.freeGroup other }

/-- The counter of a group changed by one, and its bit when it is the first or the last. -/
def count (m : Enrollment) (runlist id : Nat) (roster : Roster) (add : Bool) : Enrollment :=
  let counted := m.setRoster id
    { roster with active := if add then roster.active + 1 else roster.active - 1 }
  if roster.active = (if add then 0 else 1) then counted.setActiveGroup runlist id add else counted

/-- The memberships where nothing is in use. -/
def unused (channels groups : Nat) (listed : Nat → Bool) : Enrollment where
  channel id := if id < channels then some ⟨.free, 0, none⟩ else none
  group id := if id < groups then some ⟨false, 0, [], 0⟩ else none
  listed := listed
  active _ _ := false
  activeGroup _ _ := false
  freeChannel id := decide (id < channels)
  freeGroup id := decide (id < groups)

/-- The roster of one group is replaced. -/
theorem group_setRoster {other : Nat} :
    (m.setRoster id roster).group other = if other = id then some roster else m.group other := rfl

/-- The places in which a enrollment is recorded agree. -/
@[grind cases eager]
structure Consistent (m : Enrollment) : Prop where
  /-- The numbers of channels fit in the entries of a runlist. -/
  inRange : ∀ {id seat}, m.channel id = some seat → id < 4096
  /-- A channel in use is on a runlist that there is. -/
  listed : ∀ {id seat}, m.channel id = some seat → seat.state ≠ .free → m.listed seat.runlist = true
  /-- What is in an active set is a channel of that runlist that runs or has faulted. -/
  running : ∀ {runlist id}, m.active runlist id = true → ∃ seat, m.channel id = some seat ∧
    seat.runlist = runlist ∧ (seat.state = .active ∨ seat.state = .faulted)
  /-- An active channel is in the active set of its runlist. -/
  active : ∀ {id seat}, m.channel id = some seat → seat.state = .active →
    m.active seat.runlist id = true
  /-- A channel that is not in use has no group. -/
  loose : ∀ {id seat}, m.channel id = some seat → seat.state = .free → seat.group = none
  /-- No channel joins a group twice. -/
  nodup : ∀ {id roster}, m.group id = some roster → roster.members.Nodup
  /-- A member of a group knows its group. -/
  member : ∀ {groupId roster id}, m.group groupId = some roster → id ∈ roster.members →
    ∃ seat, m.channel id = some seat ∧ seat.group = some groupId
  /-- The group of a channel is in use on the same runlist and knows the channel. -/
  grouped : ∀ {id seat groupId}, m.channel id = some seat → seat.group = some groupId →
    ∃ roster, m.group groupId = some roster ∧ roster.inUse = true ∧ id ∈ roster.members ∧
      roster.runlist = seat.runlist
  /-- The pool of channels holds those that are not in use. -/
  freeChannel : ∀ {id}, m.freeChannel id = true ↔
    ∃ seat, m.channel id = some seat ∧ seat.state = .free
  /-- The pool of groups holds those that are not in use. -/
  freeGroup : ∀ {id}, m.freeGroup id = true ↔
    ∃ roster, m.group id = some roster ∧ roster.inUse = false

/-- The counters and the bits of the groups agree with the active sets. -/
structure Counted (m : Enrollment) : Prop where
  /-- A group counts its active members. -/
  counter : ∀ {id roster}, m.group id = some roster →
    roster.active.toNat = roster.members.countP (m.active roster.runlist)
  /-- The bit of a group is set where it has an active member. -/
  bit : ∀ {runlist id}, m.activeGroup runlist id = true ↔
    ∃ roster, m.group id = some roster ∧ roster.runlist = runlist ∧ 0 < roster.active.toNat

/-- No faulted channel is active. -/
def Stopped (m : Enrollment) : Prop :=
  ∀ (runlist id : Nat) (seat : Seat), m.channel id = some seat → seat.state = .faulted →
    m.active runlist id = false

/-- Another seat for a channel that is not both faulted and active. -/
theorem Stopped.setSeat (stopped : m.Stopped)
    (off : seat.state = .faulted → ∀ list, m.active list id = false) :
    (m.setSeat id seat).Stopped := by
  intro list other held holds faulted
  by_cases own : other = id
  · subst own
    simp only [Enrollment.setSeat, if_true, Option.some.injEq] at holds
    subst holds
    exact off faulted list
  · simp only [Enrollment.setSeat, if_neg own] at holds
    exact stopped list other held holds faulted

namespace Consistent

/-- An active channel is on its own runlist. -/
theorem runlist_eq (consistent : m.Consistent) (found : m.channel id = some seat)
    (active : m.active runlist id = true) : seat.runlist = runlist := by
  obtain ⟨other, same, on, _⟩ := consistent.running active
  rw [found, Option.some.injEq] at same
  rw [same, on]

/-- A channel that is neither active nor faulted is in no active set. -/
theorem not_active (consistent : m.Consistent) (found : m.channel id = some seat)
    (idle : seat.state ≠ .active) (healthy : seat.state ≠ .faulted) :
    m.active runlist id = false := by
  rw [Bool.eq_false_iff]
  intro active
  obtain ⟨other, same, _, state⟩ := consistent.running active
  rw [found, Option.some.injEq] at same
  rw [← same] at state
  exact state.elim idle healthy

/-- A group that is not in use has no members. -/
theorem members_eq_nil (consistent : m.Consistent) (found : m.group groupId = some roster)
    (unused : roster.inUse = false) : roster.members = [] := by
  rw [List.eq_nil_iff_forall_not_mem]
  intro id isMember
  obtain ⟨seat, channel, group⟩ := consistent.member found isMember
  obtain ⟨other, same, inUse, _⟩ := consistent.grouped channel group
  rw [found, Option.some.injEq] at same
  rw [← same, unused] at inUse
  cases inUse

/-- A channel is a member of its own group only. -/
theorem mem_iff (consistent : m.Consistent) (channel : m.channel id = some seat)
    (found : m.group groupId = some roster) :
    id ∈ roster.members ↔ seat.group = some groupId := by
  constructor
  · intro isMember
    obtain ⟨other, same, group⟩ := consistent.member found isMember
    rw [channel, Option.some.injEq] at same
    rw [same, group]
  · intro group
    obtain ⟨other, same, _, isMember, _⟩ := consistent.grouped channel group
    rw [found, Option.some.injEq] at same
    rw [same]
    exact isMember

/-- A group has no more members than there are channels. -/
theorem length_le (consistent : m.Consistent) (found : m.group groupId = some roster) :
    roster.members.length ≤ 4096 := by
  have within : roster.members ⊆ List.range 4096 := by
    intro id isMember
    obtain ⟨seat, channel, _⟩ := consistent.member found isMember
    exact List.mem_range.mpr (consistent.inRange channel)
  have short := (List.subperm_of_subset (consistent.nodup found) within).length_le
  rwa [List.length_range] at short

/-- Where nothing is in use, memberships are consistent. -/
theorem unused {channels groups : Nat} {listed : Nat → Bool} (few : channels ≤ 4096) :
    (unused channels groups listed).Consistent := by
  constructor
  case freeChannel =>
    intro id
    by_cases below : id < channels <;> simp [Enrollment.unused, below]
  case freeGroup =>
    intro id
    by_cases below : id < groups <;> simp [Enrollment.unused, below]
  all_goals
    simp only [Enrollment.unused]
    grind

/-- Stopping a channel in use. -/
theorem fault (consistent : m.Consistent) (found : m.channel id = some seat)
    (live : seat.state ≠ .free) :
    (m.setSeat id { seat with state := .faulted }).Consistent := by
  constructor <;> simp only [setSeat] <;> grind

/-- Putting a bound channel into the active set of its runlist. -/
theorem enlist (consistent : m.Consistent) (found : m.channel id = some seat)
    (bound : seat.state = .bound) :
    ((m.setActive seat.runlist id true).setSeat id { seat with state := .active }).Consistent := by
  constructor <;> simp only [setSeat, setActive] <;> grind

/-- Taking a channel that is not active any more out of the active set of its runlist. -/
theorem delist (consistent : m.Consistent) (found : m.channel id = some seat)
    {state : ChannelState} (idle : state = .bound ∧ seat.state = .active ∨
      state = .faulted ∧ seat.state = .faulted) :
    ((m.setActive seat.runlist id false).setSeat id { seat with state }).Consistent := by
  constructor <;> simp only [setSeat, setActive] <;> grind

/-- Changing the bit of a group. -/
theorem setActiveGroup (consistent : m.Consistent) (add : Bool) :
    (m.setActiveGroup runlist groupId add).Consistent :=
  ⟨consistent.inRange, consistent.listed, consistent.running, consistent.active, consistent.loose,
    consistent.nodup, consistent.member, consistent.grouped, consistent.freeChannel,
    consistent.freeGroup⟩

/-- Counting the active members of a group. -/
theorem count (consistent : m.Consistent) (found : m.group groupId = some roster) (add : Bool) :
    (m.count runlist groupId roster add).Consistent := by
  have counted : ∀ active, (m.setRoster groupId { roster with active }).Consistent := by
    intro active
    constructor <;> simp only [setRoster] <;> grind
  unfold Enrollment.count
  by_cases edge : roster.active = if add then 0 else 1
  · rw [if_pos edge]
    exact (counted _).setActiveGroup add
  · rw [if_neg edge]
    exact counted _

/-- Binding a channel to a slot of the pool. -/
theorem bind (consistent : m.Consistent) (free : m.freeChannel id = true)
    (there : m.listed runlist = true) :
    ((m.setFreeChannel id false).setSeat id ⟨.bound, runlist, none⟩).Consistent := by
  obtain ⟨seat, found, unused⟩ := consistent.freeChannel.mp free
  have off : ∀ {list}, m.active list id = false :=
    consistent.not_active found (by simp [unused]) (by simp [unused])
  have alone := consistent.loose found unused
  constructor <;> simp only [setSeat, setFreeChannel] <;> grind

/-- Releasing a channel that has left its group and its runlist. -/
theorem release (consistent : m.Consistent) (found : m.channel id = some seat)
    (alone : seat.group = none) (off : ∀ {list}, m.active list id = false) :
    ((m.setSeat id ⟨.free, 0, none⟩).setFreeChannel id true).Consistent := by
  constructor <;> simp only [setSeat, setFreeChannel] <;> grind

/-- Binding a channel in use again that is off its runlist. -/
theorem acknowledge (consistent : m.Consistent) (found : m.channel id = some seat)
    (live : seat.state ≠ .free) (off : ∀ {list}, m.active list id = false) :
    (m.setSeat id { seat with state := .bound }).Consistent := by
  constructor <;> simp only [setSeat] <;> grind

/-- Setting up a group of the pool. -/
theorem createGroup (consistent : m.Consistent) (free : m.freeGroup groupId = true) :
    ((m.setFreeGroup groupId false).setRoster groupId ⟨true, runlist, [], 0⟩).Consistent := by
  obtain ⟨roster, found, unused⟩ := consistent.freeGroup.mp free
  have empty := consistent.members_eq_nil found unused
  constructor <;> simp only [setRoster, setFreeGroup] <;> grind

/-- Giving up a group without members. -/
theorem destroyGroup (consistent : m.Consistent) (found : m.group groupId = some roster)
    (empty : roster.members = []) :
    ((m.setRoster groupId ⟨false, 0, [], roster.active⟩).setFreeGroup groupId true).Consistent := by
  constructor <;> simp only [setRoster, setFreeGroup] <;> grind

/-- Putting a bound channel without a group into a group on its runlist. -/
theorem join (consistent : m.Consistent) (channel : m.channel id = some seat)
    (alone : seat.group = none) (bound : seat.state = .bound)
    (found : m.group groupId = some roster) (inUse : roster.inUse = true)
    (together : roster.runlist = seat.runlist) :
    ((m.setRoster groupId { roster with members := roster.members ++ [id] }).setSeat id
      { seat with group := some groupId }).Consistent := by
  have apart : id ∉ roster.members := by
    rw [consistent.mem_iff channel found, alone]
    simp
  constructor <;> simp only [setRoster, setSeat] <;> grind

/-- Taking a channel out of its group. -/
theorem leave (consistent : m.Consistent) (channel : m.channel id = some seat)
    (member : seat.group = some groupId) (found : m.group groupId = some roster) :
    ((m.setRoster groupId
      { roster with members := roster.members.filter (· ≠ id) }).setSeat id
      { seat with group := none }).Consistent := by
  constructor <;> simp only [setRoster, setSeat] <;> grind

end Consistent

/-- Of two tests that differ at one element of a list, one counts one more. -/
theorem countP_eq_succ {list : List Nat} {more fewer : Nat → Bool} (nodup : list.Nodup)
    (isMember : id ∈ list) (counts : more id = true) (omits : fewer id = false)
    (agree : ∀ other, other ≠ id → more other = fewer other) :
    list.countP more = list.countP fewer + 1 := by
  have split := List.perm_cons_erase isMember
  have rest : (list.erase id).countP more = (list.erase id).countP fewer := by
    refine List.countP_congr fun other isOther => ?_
    rw [agree other (nodup.mem_erase_iff.mp isOther).1]
  rw [split.countP_eq, split.countP_eq, List.countP_cons, List.countP_cons, rest, counts, omits]
  rfl

namespace Counted

/-- Where nothing is in use, nothing is counted. -/
theorem unused {channels groups : Nat} {listed : Nat → Bool} :
    (unused channels groups listed).Counted := by
  constructor
  · intro id roster found
    simp only [Enrollment.unused] at found
    split at found
    · cases found
      rfl
    · cases found
  · intro list id
    simp only [Enrollment.unused, Bool.false_eq_true, false_iff]
    rintro ⟨roster, found, _, positive⟩
    split at found
    · cases found
      cases positive
    · cases found

/-- What concerns no group. -/
theorem setSeat (counted : m.Counted) : (m.setSeat id seat).Counted :=
  ⟨counted.counter, counted.bit⟩

/-- Changing the pool of channels. -/
theorem setFreeChannel (counted : m.Counted) {free : Bool} : (m.setFreeChannel id free).Counted :=
  ⟨counted.counter, counted.bit⟩

/-- Changing the pool of groups. -/
theorem setFreeGroup (counted : m.Counted) {free : Bool} :
    (m.setFreeGroup groupId free).Counted :=
  ⟨counted.counter, counted.bit⟩

/-- A group without members counts none. -/
theorem active_eq_zero (counted : m.Counted) (found : m.group groupId = some roster)
    (empty : roster.members = []) : roster.active = 0 := by
  rw [← UInt32.toNat_inj, counted.counter found, empty]
  rfl

/-- Changing the activity of a channel without a group. -/
theorem setActive (counted : m.Counted) (consistent : m.Consistent)
    (channel : m.channel id = some seat) (alone : seat.group = none) (add : Bool) :
    (m.setActive runlist id add).Counted := by
  refine ⟨fun {groupId roster} found => ?_, counted.bit⟩
  rw [counted.counter found]
  refine List.countP_congr fun other isMember => ?_
  have apart : other ≠ id := by
    rintro rfl
    rw [consistent.mem_iff channel found, alone] at isMember
    cases isMember
  simp [Enrollment.setActive, apart]

/-- The counter of a group follows the number of its active members up or down by one. -/
theorem toggle_counter (counted : m.Counted) (consistent : m.Consistent)
    (found : m.group groupId = some roster) (isMember : id ∈ roster.members) {add : Bool}
    (was : m.active roster.runlist id = !add) :
    (if add then roster.active + 1 else roster.active - 1).toNat =
        roster.members.countP ((m.setActive roster.runlist id add).active roster.runlist) ∧
      (if add then roster.active + 1 else roster.active - 1).toNat + (if add then 0 else 1) =
        roster.active.toNat + (if add then 1 else 0) := by
  have before := counted.counter found
  have few : roster.members.countP (m.active roster.runlist) ≤ 4096 :=
    Nat.le_trans List.countP_le_length (consistent.length_le found)
  have alike : ∀ other, other ≠ id → (m.setActive roster.runlist id add).active roster.runlist
      other = m.active roster.runlist other := by
    intro other apart
    simp [Enrollment.setActive, apart]
  have changed : (m.setActive roster.runlist id add).active roster.runlist id = add := by
    simp [Enrollment.setActive]
  cases add with
  | true =>
    have one := countP_eq_succ (consistent.nodup found) isMember changed was alike
    have sum : (roster.active + 1).toNat = roster.active.toNat + 1 := by
      rw [UInt32.toNat_add]
      exact Nat.mod_eq_of_lt (by change _ + 1 < _; omega)
    rw [if_pos rfl, one, sum, before]
    exact ⟨rfl, rfl⟩
  | false =>
    have one := countP_eq_succ (consistent.nodup found) isMember was changed
      fun other apart => (alike other apart).symm
    have least : 1 ≤ roster.active := by
      rw [UInt32.le_iff_toNat_le, before, one]
      exact Nat.le_add_left 1 _
    have difference : (roster.active - 1).toNat = roster.active.toNat - 1 :=
      UInt32.toNat_sub_of_le _ _ least
    rw [if_neg (by decide), difference, before, one]
    exact ⟨rfl, rfl⟩

/-- Changing the activity of a channel together with the counter of its group. -/
theorem toggle (counted : m.Counted) (consistent : m.Consistent)
    (channel : m.channel id = some seat) (group : seat.group = some groupId)
    (found : m.group groupId = some roster) {next : Seat} {add : Bool}
    (was : m.active seat.runlist id = !add) :
    (((m.setActive seat.runlist id add).setSeat id next).count seat.runlist groupId roster
      add).Counted := by
  obtain ⟨other, same, _, isMember, together⟩ := consistent.grouped channel group
  rw [found, Option.some.injEq] at same
  subst same
  rw [← together] at was ⊢
  obtain ⟨after, balance⟩ := counted.toggle_counter consistent found isMember was
  have counter : ∀ {number : Nat} {held : Roster}, number ≠ groupId →
      m.group number = some held →
      held.active.toNat =
        held.members.countP ((m.setActive roster.runlist id add).active held.runlist) := by
    intro number held apart holds
    rw [counted.counter holds]
    refine List.countP_congr fun member inHeld => ?_
    have other : member ≠ id := by
      rintro rfl
      rw [consistent.mem_iff channel holds, group, Option.some.injEq] at inHeld
      exact apart inHeld.symm
    simp [Enrollment.setActive, other]
  have edge : roster.active = (if add then 0 else 1) ↔
      roster.active.toNat = if add then 0 else 1 := by
    rw [← UInt32.toNat_inj]
    cases add <;> rfl
  have bit := @counted.bit
  unfold Enrollment.count
  dsimp only
  generalize (if add then roster.active + 1 else roster.active - 1) = active at after balance ⊢
  have counters : ∀ {number : Nat} {held : Roster},
      ((((m.setActive roster.runlist id add).setSeat id next).setRoster groupId
        { roster with active }).group number = some held) →
      held.active.toNat =
        held.members.countP ((m.setActive roster.runlist id add).active held.runlist) := by
    intro number held holds
    by_cases own : number = groupId
    · subst own
      rw [group_setRoster, if_pos rfl, Option.some.injEq] at holds
      rw [← holds]
      exact after
    · rw [group_setRoster, if_neg own] at holds
      exact counter own holds
  by_cases first : roster.active = if add then 0 else 1
  · rw [if_pos first]
    rw [edge] at first
    refine ⟨counters, ?_⟩
    simp only [Enrollment.setActiveGroup, setRoster, Enrollment.setSeat, Enrollment.setActive]
    grind
  · rw [if_neg first]
    rw [edge] at first
    refine ⟨counters, ?_⟩
    simp only [setRoster, Enrollment.setSeat, Enrollment.setActive]
    grind

/-- Another roster that counts right and is active on the same runlists. -/
theorem setRoster (counted : m.Counted) (found : m.group groupId = some roster) {next : Roster}
    (counter : next.active.toNat = next.members.countP (m.active next.runlist))
    (alike : ∀ list, next.runlist = list ∧ 0 < next.active.toNat ↔
      roster.runlist = list ∧ 0 < roster.active.toNat) :
    (m.setRoster groupId next).Counted := by
  constructor
  · intro number held holds
    by_cases own : number = groupId
    · rw [group_setRoster, if_pos own, Option.some.injEq] at holds
      rw [← holds]
      exact counter
    · rw [group_setRoster, if_neg own] at holds
      exact counted.counter holds
  · intro list number
    refine counted.bit.trans ?_
    by_cases own : number = groupId
    · rw [group_setRoster, if_pos own, own, found]
      simp only [Option.some.injEq, exists_eq_left']
      exact (alike list).symm
    · rw [group_setRoster, if_neg own]

/-- Setting up a group that has no members. -/
theorem createGroup (counted : m.Counted) (consistent : m.Consistent)
    (free : m.freeGroup groupId = true) :
    (m.setRoster groupId ⟨true, runlist, [], 0⟩).Counted := by
  obtain ⟨roster, found, unused⟩ := consistent.freeGroup.mp free
  have none := counted.active_eq_zero found (consistent.members_eq_nil found unused)
  refine counted.setRoster found rfl fun list => ?_
  rw [none]
  simp

/-- Giving up a group without members. -/
theorem destroyGroup (counted : m.Counted) (found : m.group groupId = some roster)
    (empty : roster.members = []) :
    (m.setRoster groupId ⟨false, 0, [], roster.active⟩).Counted := by
  have none := counted.active_eq_zero found empty
  refine counted.setRoster found ?_ fun list => ?_
  · rw [none]
    rfl
  · rw [none]
    simp

/-- Putting a channel that is not active into a group. -/
theorem join (counted : m.Counted) (found : m.group groupId = some roster)
    (off : m.active roster.runlist id = false) :
    (m.setRoster groupId { roster with members := roster.members ++ [id] }).Counted := by
  refine counted.setRoster found ?_ fun _ => Iff.rfl
  rw [List.countP_append, List.countP_singleton, off, counted.counter found]
  rfl

/-- Taking a channel that is not active out of a group. -/
theorem leave (counted : m.Counted) (found : m.group groupId = some roster)
    (off : m.active roster.runlist id = false) :
    (m.setRoster groupId { roster with members := roster.members.filter (· ≠ id) }).Counted := by
  refine counted.setRoster found ?_ fun _ => Iff.rfl
  rw [List.countP_filter, counted.counter found]
  refine List.countP_congr fun other _ => ?_
  by_cases own : other = id
  · simp [own, off]
  · simp [own]

end Counted

end Enrollment

end GpuSched
