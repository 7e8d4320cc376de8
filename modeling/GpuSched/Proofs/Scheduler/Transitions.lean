import GpuSched.Proofs.Scheduler.Conduct
import GpuSched.Proofs.Scheduler.Exposure

/-!
# Transitions of channels

What a request makes of the state of a channel: binding, updates, leaving a group, acknowledging a
fault and giving back the last reference change it in one way each, and whatever services faults or
recovers contexts may mark a channel in use faulted. Nothing else changes it, so a faulted channel
stays faulted until its fault is acknowledged or its last reference is given back.
-/
namespace GpuSched

open Operation

namespace Table

variable {α : Type} {table : Table α} {key : Nat} {value : α}

/-- A value under a new number stands beside the others. -/
theorem perm_insert (fresh : table.contains key = false) :
    (table.insert key value).entries.Perm ((key, value) :: table.entries) := by
  have apart : lookup key table.entries = none := by
    rw [contains, Option.isSome_eq_false_iff, Option.isNone_iff_eq_none] at fresh
    exact fresh
  change (place key value table.entries).Perm _
  generalize table.entries = list at apart
  induction list with
  | nil => exact .refl _
  | cons head rest ih =>
    obtain ⟨held, other⟩ := head
    rw [lookup] at apart
    split at apart
    · cases apart
    · rename_i differs
      rw [place]
      split
      · exact .refl _
      · rw [if_neg (Ne.symm differs)]
        exact ((ih apart).cons _).trans (.swap _ _ _)

/-- A number that is taken out stands beside the others before. -/
theorem perm_erase (found : table.find? key = some value) :
    table.entries.Perm ((key, value) :: (table.erase key).entries) := by
  have mem := find?_eq_some_iff.mp found
  have ascending := table.ascending
  change table.entries.Perm (_ :: table.entries.filter fun entry => entry.1 != key)
  generalize table.entries = list at mem ascending
  induction list with
  | nil => cases mem
  | cons head rest ih =>
    rw [List.pairwise_cons] at ascending
    rcases List.mem_cons.mp mem with rfl | later
    · have apart : ∀ entry ∈ rest, (entry.1 != key) = true := fun entry inRest => by
        have less := ascending.1 entry inRest
        dsimp only at less
        simpa using Nat.ne_of_gt less
      rw [List.filter_cons_of_neg (by simp), List.filter_eq_self.mpr apart]
    · have less := ascending.1 _ later
      rw [List.filter_cons_of_pos (by simpa using Nat.ne_of_lt less)]
      exact ((ih later ascending.2).cons _).trans (.swap _ _ _)

end Table

namespace Session

variable {session : Session} {handle id other : Nat}

/-- How many handles stand for a channel. -/
def holders (session : Session) (id : Nat) : Nat := session.handles.values.count id

/-- One handle more stands for the channel under a new handle. -/
theorem holders_insert (fresh : session.handles.contains handle = false) :
    (session.handles.insert handle id).values.count other =
      session.holders other + if other = id then 1 else 0 := by
  unfold Table.values holders
  rw [((Table.perm_insert fresh).map (·.2)).count_eq, List.map_cons, List.count_cons]
  simp only [beq_iff_eq, eq_comm (a := id)]
  rfl

/-- One handle less stands for the channel under a handle that is taken away. -/
theorem holders_erase (holds : session.handles.find? handle = some id) :
    session.holders other =
      (session.handles.erase handle).values.count other + if other = id then 1 else 0 := by
  unfold Table.values holders
  rw [Table.values, ((Table.perm_erase holds).map (·.2)).count_eq, List.map_cons, List.count_cons]
  simp only [beq_iff_eq, eq_comm (a := id)]

end Session

/-- Requests in whose course faults may be serviced and contexts recovered, with the updates that
wait for the hardware. -/
def Request.faults : Request → Bool
  | .update _ _ _ waits => waits
  | .drop _ | .leave _ => true
  | request => request.recovers

/-- The end of a wait that is asked for can be told by a clock. -/
def Request.told (clock : Clock) : Request → Bool
  | .wait _ timeout => clock.tells timeout
  | _ => true

namespace Session

/-- The ways in which a request that ends in some result changes the state of a channel. -/
inductive Transition (session : Session) :
    Request → Except Failure Reply → Nat → ChannelState → ChannelState → Prop where
  /-- The slot is bound. -/
  | bound {handle id : Nat} {binding : Scheduler.Binding} :
      Transition session (.bind handle binding) (.ok (.id id)) id .free .bound
  /-- An update adds the channel; the hardware may be late to pick the list up. -/
  | added {list id : Nat} {wait : Bool} {result : Except Failure Reply}
      (accepted : result = .ok .done ∨
        result = .error (.refused (.runlistUpdateFailed list)) ∧ wait = true) :
      Transition session (.update list (some id) true wait) result id .bound .active
  /-- An update removes the channel. -/
  | removed {list id : Nat} {wait : Bool} {result : Except Failure Reply}
      (accepted : result = .ok .done ∨
        result = .error (.refused (.runlistUpdateFailed list)) ∧ wait = true) :
      Transition session (.update list (some id) false wait) result id .active .bound
  /-- The channel is taken off its runlist to leave its group. -/
  | left {handle id : Nat} {result : Except Failure Reply}
      (holds : session.handles.find? handle = some id) :
      Transition session (.leave handle) result id .active .bound
  /-- A fault of a channel in use is serviced, or its context is recovered. -/
  | faulted {request : Request} {result : Except Failure Reply} {id : Nat} {state : ChannelState}
      (faults : request.faults = true) (live : state ≠ .free) :
      Transition session request result id state .faulted
  /-- The fault of the channel is acknowledged. -/
  | acknowledged {handle id : Nat} (holds : session.handles.find? handle = some id) :
      Transition session (.acknowledge handle) (.ok .done) id .faulted .bound
  /-- The last reference to the channel is given back. -/
  | released {handle id : Nat} {channel : Channel}
      (holds : session.handles.find? handle = some id)
      (found : session.scheduler.channels[id]? = some channel) (last : channel.references = 1) :
      Transition session (.drop handle) (.ok .done) id channel.state .free

end Session

/-- Each list that the hardware reads lies within its buffer. -/
def Scheduler.Legible (scheduler : Scheduler) : Prop :=
  ∀ list runlist, scheduler.runlists.find? list = some runlist →
    2 * runlist.count ≤ runlist.current.wordCount

/-- The count of references is the number of handles, and a free slot has none. -/
structure Channel.Tallied (channel : Channel) (holders : Nat) : Prop where
  references : channel.references.toNat = holders
  free : channel.state = .free → channel.references = 0

namespace Session

variable {session after : Session} {request : Request} {handle id : Nat} {α : Type}

/-- What a request makes of one channel. -/
structure Fares (session : Session) (request : Request) (result : Except Failure Reply)
    (after : Session) (id : Nat) (before next : Channel) : Prop where
  state : next.state = before.state ∨
    session.Transition request result id before.state next.state
  events : next.events ≤ before.events + 1
  /-- The references are counted along, as long as their number has room. -/
  tallied : session.handles.size + 1 < 2 ^ 32 → before.Tallied (session.holders id) →
    next.Tallied (after.holders id)

/-- The channels to which handles stand are in the table. -/
def Known (session : Session) : Prop :=
  ∀ handle id, session.handles.find? handle = some id →
    ∃ channel, session.scheduler.channels[id]? = some channel

/-- What a request makes of a session. -/
structure Passes (session : Session) (request : Request) (result : Except Failure Reply)
    (after : Session) : Prop where
  found : ∀ {id : Nat} {channel : Channel}, session.scheduler.channels[id]? = some channel →
    ∃ next, after.scheduler.channels[id]? = some next ∧
      session.Fares request result after id channel next
  known : after.Known
  size : after.handles.size ≤ session.handles.size + 1

/-- Which count of a session has no room left for a request. -/
inductive Exhausts (session : Session) : Request → Abort → Prop where
  /-- A count of references is full. -/
  | shared {handle id : Nat} {channel : Channel}
      (found : session.scheduler.channels[id]? = some channel)
      (full : channel.references = 0xffffffff) : Exhausts session (.retain handle id) .overflow
  /-- A count of references has wrapped around. -/
  | dropped {handle id : Nat} {channel : Channel}
      (holds : session.handles.find? handle = some id)
      (found : session.scheduler.channels[id]? = some channel) (none : channel.references = 0) :
      Exhausts session (.drop handle) (.referenceUnderflow id)
  /-- A count of events is full. -/
  | posted {request : Request} (full : session.scheduler.EventsFull) :
      Exhausts session request .overflow

/-- A request may abort where a count has no room, where a list is longer than its buffer, where the
clock cannot tell the end of a wait, and where an event has no place in the hardware. -/
def Aborts (session : Session) (request : Request) (reason : Abort) : Prop :=
  session.Exhausts request reason ∨ ¬session.scheduler.Legible ∨
    request.told session.scheduler.clock = false ∨ ∃ event, request = .inject event

/-- However an operation ends, the session has passed as a request may make it, and it aborts only
where the request may. -/
def Performs (session : Session) (request : Request) (operation : Operation Session Reply) : Prop :=
  operation.Yields session (fun reply after => session.Passes request (.ok reply) after)
    fun failure after => (∀ reason, failure = .aborted reason → session.Aborts request reason) ∧
      session.Passes request (.error failure) after

/-- A channel that goes on under the same handles. -/
theorem Fares.of_goes {moves : ChannelState → ChannelState → Prop} {posts : Nat}
    {result : Except Failure Reply} {before next : Channel}
    (goes : before.Goes moves posts next) (few : posts ≤ 1)
    (same : after.holders id = session.holders id)
    (each : ∀ {one two : ChannelState}, moves one two → two = one ∨
      two ≠ .free ∧ session.Transition request result id one two) :
    session.Fares request result after id before next where
  state := (each goes.state).imp_right And.right
  events := goes.events.trans (Nat.add_le_add_left few _)
  tallied _ tallied := by
    refine ⟨by rw [goes.references, same]; exact tallied.references, fun free => ?_⟩
    rw [goes.references]
    rcases each goes.state with still | ⟨live, _⟩
    · exact tallied.free (still ▸ free)
    · exact absurd free live

/-- A channel that rests. -/
theorem Fares.of_rests {posts : Nat} {result : Except Failure Reply} {before next : Channel}
    (goes : before.Goes Eq posts next) (few : posts ≤ 1)
    (same : after.holders id = session.holders id) :
    session.Fares request result after id before next :=
  .of_goes goes few same fun same => .inl same.symm

/-- A channel that may be marked faulted. -/
theorem Fares.of_falls {posts : Nat} {result : Except Failure Reply} {before next : Channel}
    (goes : before.Goes ChannelState.Falls posts next) (few : posts ≤ 1)
    (same : after.holders id = session.holders id) (faults : request.faults = true) :
    session.Fares request result after id before next := by
  refine .of_goes goes few same fun falls => ?_
  cases falls with
  | same => exact .inl rfl
  | marked live => exact .inr ⟨by decide, .faulted faults live⟩

/-- Handles and channels that stay. -/
theorem Passes.of_moves {may : Nat → Channel → Channel → Prop} {scheduler : Scheduler}
    {result : Except Failure Reply} (known : session.Known)
    (moves : Scheduler.Moves may session.scheduler scheduler)
    (fares : ∀ {id : Nat} {before next : Channel},
      session.scheduler.channels[id]? = some before → may id before next →
        session.Fares request result { session with scheduler } id before next) :
    session.Passes request result { session with scheduler } where
  found := fun found => by
    obtain ⟨next, holds, goes⟩ := moves.found found
    exact ⟨next, holds, fares found goes⟩
  known := fun handle id holds => by
    obtain ⟨channel, found⟩ := known handle id holds
    obtain ⟨next, there, _⟩ := moves.found found
    exact ⟨next, there⟩
  size := Nat.le_succ _

/-- Nothing changes. -/
theorem Passes.refl (known : session.Known) (result : Except Failure Reply) :
    session.Passes request result session :=
  .of_moves known (Scheduler.moves_of_same rfl) fun _ goes => .of_rests goes (Nat.zero_le 1) rfl

/-- A call of the scheduler. -/
theorem performs_call {aborts : Abort → Prop} {may : Nat → Channel → Channel → Prop}
    {operation : Operation Scheduler Reply} (known : session.Known)
    (conducts : Scheduler.Conducts aborts may operation session.scheduler)
    (milder : ∀ reason, aborts reason → session.Aborts request reason)
    (fares : ∀ {result : Except Failure Reply} {scheduler : Scheduler} {id : Nat}
      {before next : Channel}, session.scheduler.channels[id]? = some before → may id before next →
        session.Fares request result { session with scheduler } id before next) :
    session.Performs request (call operation) := by
  unfold Performs call
  rw [yields_focus]
  refine Yields.mono conducts (fun _ _ moves => .of_moves known moves fares) ?_
  exact fun _ _ ⟨allowed, moves⟩ =>
    ⟨fun reason same => milder reason (allowed reason same), .of_moves known moves fares⟩

/-- A call that lets the channels rest. -/
theorem performs_resting {operation : Operation Scheduler Reply} (known : session.Known)
    (conducts : Scheduler.Conducts Scheduler.Never (Scheduler.Resting 0) operation
      session.scheduler) : session.Performs request (call operation) :=
  performs_call known conducts (fun _ => False.elim)
    fun _ goes => .of_rests goes (Nat.zero_le 1) rfl

/-- A call in whose course channels may be marked faulted and events be posted. -/
theorem performs_falling {operation : Operation Scheduler Reply} (known : session.Known)
    (conducts : Scheduler.Conducts session.scheduler.Posts (Scheduler.Falling 1) operation
      session.scheduler) (faults : request.faults = true) :
    session.Performs request (call operation) := by
  refine performs_call known conducts ?_ fun _ goes => .of_falls goes (Nat.le_refl 1) rfl faults
  rintro _ ⟨rfl, full⟩
  exact .inl (.posted full)

/-- A call that stops channels at most. -/
theorem performs_ceasing {operation : Operation Scheduler Unit} {reply : Reply}
    (known : session.Known) (ceases : Scheduler.Ceases False operation session.scheduler)
    (faults : request.faults = true) :
    session.Performs request (call (operation *> pure reply)) :=
  performs_call known (ceases.conducts.answering reply) (fun _ => False.elim)
    fun _ goes => .of_falls goes (Nat.zero_le 1) rfl faults

/-- What is done with the channel under a handle. -/
theorem performs_withHandle {act : Nat → Operation Session Reply} (known : session.Known)
    (each : ∀ {id : Nat} {channel : Channel}, session.handles.find? handle = some id →
      session.scheduler.channels[id]? = some channel → session.Performs request (act id)) :
    session.Performs request (withHandle handle act) := by
  unfold Performs withHandle
  rw [yields_bind, yields_get]
  cases holds : session.handles.find? handle with
  | none => exact .refl known _
  | some id =>
    obtain ⟨channel, found⟩ := known handle id holds
    exact each holds found

/-- A reference is acquired and filed. -/
theorem performs_file {acquire : Operation Session Nat} (known : session.Known)
    (acquires : session.handles.contains handle = false → acquire.Yields session
      (fun id after => session.Passes request (.ok (.id id))
        { after with handles := after.handles.insert handle id })
      fun failure after =>
        (∀ reason, failure = .aborted reason → session.Aborts request reason) ∧
          session.Passes request (.error failure) after) :
    session.Performs request (file handle acquire) := by
  unfold Performs file
  rw [yields_bind, yields_get]
  split
  · exact .refl known _
  · rename_i fresh
    rw [yields_bind]
    exact acquires (by simpa using fresh)

/-- A channel is referred to by one handle more. -/
theorem Passes.filed {may : Nat → Channel → Channel → Prop} {scheduler : Scheduler}
    {result : Except Failure Reply} {channel : Channel} (known : session.Known)
    (fresh : session.handles.contains handle = false)
    (found : session.scheduler.channels[id]? = some channel)
    (moves : Scheduler.Moves may session.scheduler scheduler)
    (fares : ∀ {after : Session} {other : Nat} {before next : Channel},
      after.holders other = session.holders other + (if other = id then 1 else 0) →
      session.scheduler.channels[other]? = some before → may other before next →
        session.Fares request result after other before next) :
    session.Passes request result
      { scheduler, handles := session.handles.insert handle id } := by
  refine ⟨fun found => ?_, fun other known' holds => ?_, ?_⟩
  · obtain ⟨next, holds, goes⟩ := moves.found found
    exact ⟨next, holds, fares (holders_insert fresh) found goes⟩
  · have isFound : ∃ channel, session.scheduler.channels[known']? = some channel := by
      change (session.handles.insert handle id).find? other = some known' at holds
      rw [Table.find?_insert] at holds
      split at holds
      · cases holds
        exact ⟨channel, found⟩
      · exact known other known' holds
    obtain ⟨channel, there⟩ := isFound
    obtain ⟨next, there, _⟩ := moves.found there
    exact ⟨next, there⟩
  · exact Nat.le_of_eq (Table.perm_insert fresh).length_eq

/-- No channel has more handles than there are. -/
theorem holders_le (session : Session) (id : Nat) : session.holders id ≤ session.handles.size := by
  have short : session.handles.values.count id ≤ session.handles.values.length :=
    List.count_le_length
  rwa [Table.values, List.length_map] at short

/-- A reference is taken to a channel in use. -/
theorem fares_sharing {after : Session} {result : Except Failure Reply} {other : Nat}
    {before next : Channel} (goes : Scheduler.Sharing id other before next)
    (live : other = id → before.Tallied (session.holders other) → before.state ≠ .free)
    (count : after.holders other = session.holders other + (if other = id then 1 else 0)) :
    session.Fares request result after other before next := by
  by_cases own : other = id
  · rw [if_pos own] at count
    cases goes.1 own
    refine ⟨.inl rfl, Nat.le_succ _, fun room tallied => ⟨?_, fun free => ?_⟩⟩
    · have few := session.holders_le other
      have counted := tallied.references
      have one : (1 : UInt32).toNat = 1 := rfl
      rw [count, UInt32.toNat_add, counted, one, Nat.mod_eq_of_lt (by omega)]
    · exact absurd free (live own tallied)
  · rw [if_neg own, Nat.add_zero] at count
    exact .of_rests (goes.2 own) (Nat.zero_le 1) count

/-- A free slot is bound. -/
theorem fares_binds {after : Session} {binding : Scheduler.Binding} {other : Nat}
    {before next : Channel} (goes : Scheduler.Binds id other before next)
    (count : after.holders other = session.holders other + (if other = id then 1 else 0)) :
    session.Fares (.bind handle binding) (.ok (.id id)) after other before next := by
  by_cases own : other = id
  · rw [if_pos own] at count
    obtain ⟨free, references, bound, events⟩ := goes.1 own
    refine ⟨.inr ?_, ?_, fun _ tallied => ⟨?_, fun impossible => ?_⟩⟩
    · rw [free, bound, own]
      exact .bound
    · rw [events]
      exact Nat.zero_le _
    · have none := tallied.references
      rw [tallied.free free] at none
      rw [count, ← none, references]
      rfl
    · rw [bound] at impossible
      cases impossible
  · rw [if_neg own, Nat.add_zero] at count
    exact .of_rests (goes.2 own) (Nat.zero_le 1) count

/-- A reference is given back. -/
theorem fares_dropping {after : Session} {result : Except Failure Reply} {other : Nat}
    {channel before next : Channel} (goes : Scheduler.Dropping id other before next)
    (holds : session.handles.find? handle = some id)
    (found : session.scheduler.channels[id]? = some channel)
    (is : other = id → before = channel)
    (returns : channel.references = 1 → result = .ok .done)
    (count : session.holders other = after.holders other + (if other = id then 1 else 0)) :
    session.Fares (.drop handle) result after other before next := by
  by_cases own : other = id
  · rw [if_pos own] at count
    obtain ⟨references, events, state⟩ := goes.1 own
    cases is own
    cases own
    refine ⟨?_, events.trans (Nat.le_succ _), fun room tallied => ⟨?_, fun free => ?_⟩⟩
    · rw [state]
      split
      · rename_i last
        rw [returns last]
        exact .inr (.released holds found last)
      · exact .inl rfl
    · have counted := tallied.references
      have some : (1 : UInt32) ≤ channel.references := by
        rw [UInt32.le_iff_toNat_le, counted, count]
        exact Nat.le_add_left _ _
      have one : (1 : UInt32).toNat = 1 := rfl
      rw [references, UInt32.toNat_sub_of_le _ _ some, counted, count, one, Nat.add_sub_cancel]
    · rw [references]
      rw [state] at free
      split at free
      · rename_i last
        rw [last]
        rfl
      · have counted := tallied.references
        rw [tallied.free free, count] at counted
        exact absurd counted.symm (Nat.succ_ne_zero _)
  · rw [if_neg own, Nat.add_zero] at count
    exact .of_falls (goes.2 own) (Nat.zero_le 1) count.symm rfl

/-- An update that is carried out, or for which the hardware is late. -/
theorem fares_updating {own : Option Nat} {list : Nat} {add wait : Bool}
    {result : Except Failure Reply} {before next : Channel}
    (goes : Scheduler.Updating own add wait id before next)
    (accepted : result = .ok .done ∨
      result = .error (.refused (.runlistUpdateFailed list)) ∧ wait = true)
    (sane : own = some id → add = true → before.state ≠ .faulted)
    (same : after.holders id = session.holders id) :
    session.Fares (.update list own add wait) result after id before next := by
  have sanely : before.Goes (fun one two => ChannelState.Updates (own = some id) add wait one two ∧
      (own = some id → add = true → one ≠ .faulted)) 0 next :=
    ⟨goes.references, goes.events, goes.state, sane⟩
  refine .of_goes sanely (Nat.zero_le 1) same fun {one _} ⟨updates, sane⟩ => ?_
  cases updates with
  | same => exact .inl rfl
  | marked waits live => exact .inr ⟨by decide, .faulted waits live⟩
  | toggled isOwn live =>
    subst isOwn
    unfold Scheduler.toggledState
    cases add with
    | true =>
      rw [if_pos rfl]
      cases one with
      | free => exact absurd rfl live
      | bound => exact .inr ⟨by decide, .added accepted⟩
      | active => exact .inl rfl
      | faulted => exact absurd rfl (sane rfl rfl)
    | false =>
      rw [if_neg (by decide)]
      split
      · rename_i active
        rw [active]
        exact .inr ⟨by decide, .removed accepted⟩
      · exact .inl rfl

/-- An update. -/
theorem performs_update (known : session.Known) (intact : session.scheduler.Intact False)
    (list : Nat) (own : Option Nat) (add wait : Bool) :
    session.Performs (.update list own add wait)
      (call (Scheduler.updateRunlist list own add wait *> pure .done)) := by
  unfold Performs call
  rw [yields_focus, yields_seqRight]
  by_cases stuck : ∃ id channel, own = some id ∧ add = true ∧
      session.scheduler.channels[id]? = some channel ∧ channel.state = .faulted
  · obtain ⟨id, channel, rfl, rfl, found, faulted⟩ := stuck
    obtain ⟨error, run, _⟩ := Scheduler.updateRunlist_faulted found faulted list wait
    unfold Yields
    rw [run]
    exact ⟨Scheduler.allowed_of_refused ⟨error, rfl⟩, .refl known _⟩
  · have sane : ∀ {id : Nat} {before : Channel}, session.scheduler.channels[id]? = some before →
        own = some id → add = true → before.state ≠ .faulted :=
      fun found own add faulted => stuck ⟨_, _, own, add, found, faulted⟩
    refine (Scheduler.yields_updates intact.sound own add wait).mono ?_ ?_
    · exact fun _ _ moves => .of_moves known moves fun found goes =>
        fares_updating goes (.inl rfl) (sane found) rfl
    · rintro failure scheduler ⟨refused, moves, rfl | ⟨rfl, waits⟩⟩
      · exact ⟨Scheduler.allowed_of_refused refused, .refl known _⟩
      · exact ⟨Scheduler.allowed_of_refused refused, .of_moves known moves fun found goes =>
          fares_updating goes (.inr ⟨rfl, waits⟩) (sane found) rfl⟩

/-- A channel leaves its group. -/
theorem performs_leave (known : session.Known) (intact : session.scheduler.Intact False)
    (handle : Nat) : session.Performs (.leave handle)
      (onHandle handle fun id => Scheduler.leaveGroup id *> pure .done) := by
  refine performs_withHandle known fun {id _} holds found => performs_call known
    ((Scheduler.conducts_leaveGroup intact found).answering _) (fun _ => False.elim)
    fun _ goes => .of_goes goes (Nat.zero_le 1) rfl fun updates => ?_
  cases updates with
  | same => exact .inl rfl
  | marked _ live => exact .inr ⟨by decide, .faulted rfl live⟩
  | toggled own _ =>
    cases own
    unfold Scheduler.toggledState
    rw [if_neg (by decide)]
    split
    · rename_i active
      rw [active]
      exact .inr ⟨by decide, .left holds⟩
    · exact .inl rfl

/-- A fault is acknowledged. -/
theorem performs_acknowledge (known : session.Known) (intact : session.scheduler.Intact False)
    (handle : Nat) : session.Performs (.acknowledge handle)
      (onHandle handle fun id => Scheduler.acknowledgeFault id *> pure .done) := by
  refine performs_withHandle known fun {id _} holds found => ?_
  unfold Performs call
  rw [yields_focus, yields_seqRight]
  refine (Scheduler.yields_acknowledges intact.sound found).mono ?_ ?_
  · intro _ scheduler moves
    refine .of_moves known moves fun {other _ _} _ goes => ?_
    by_cases own : other = id
    · subst own
      refine .of_goes (goes.1 rfl) (Nat.zero_le 1) rfl ?_
      rintro _ _ ⟨rfl, rfl⟩
      exact .inr ⟨by decide, .acknowledged holds⟩
    · exact .of_rests (goes.2 own) (Nat.zero_le 1) rfl
  · rintro _ _ ⟨refused, rfl⟩
    exact ⟨Scheduler.allowed_of_refused refused, .refl known _⟩

/-- A slot is bound. -/
theorem performs_bind (known : session.Known) (intact : session.scheduler.Intact False)
    (handle : Nat) (binding : Scheduler.Binding) :
    session.Performs (.bind handle binding) (file handle (call (Scheduler.bind binding))) := by
  refine performs_file known fun fresh => ?_
  unfold call
  rw [yields_focus]
  refine (Scheduler.yields_binds intact.sound binding).mono ?_ ?_
  · rintro id scheduler ⟨moves, _, found, _⟩
    exact .filed known fresh found moves fun count _ goes => fares_binds goes count
  · rintro _ _ ⟨refused, rfl⟩
    exact ⟨Scheduler.allowed_of_refused refused, .refl known _⟩

/-- A reference is taken to a channel that has one. -/
theorem performs_retain (known : session.Known) (handle id : Nat) :
    session.Performs (.retain handle id) (file handle do
      call (Scheduler.retain id)
      return id) := by
  refine performs_file known fun fresh => ?_
  rw [yields_bind]
  unfold call
  rw [yields_focus]
  refine (Scheduler.yields_retain session.scheduler id).mono ?_ ?_
  · rintro _ scheduler ⟨moves, channel, found, some⟩
    refine .filed known fresh found moves fun count holds goes => fares_sharing goes ?_ count
    rintro rfl tallied free
    cases found.symm.trans holds
    exact some (tallied.free free)
  · rintro _ _ ⟨rfl, refused | ⟨rfl, channel, found, full⟩⟩
    · exact ⟨Scheduler.allowed_of_refused refused, .refl known _⟩
    · refine ⟨?_, .refl known _⟩
      rintro _ ⟨⟩
      exact .inl (.shared found full)

/-- A reference is taken beside one that is held. -/
theorem performs_duplicate (known : session.Known) (handle source : Nat) :
    session.Performs (.duplicate handle source) (perform (.duplicate handle source)) := by
  unfold Performs perform
  rw [yields_bind, yields_get]
  split
  · exact .refl known _
  · refine performs_withHandle known fun {id channel} holds found => ?_
    refine performs_file known fun fresh => ?_
    rw [yields_bind]
    unfold call
    rw [yields_focus]
    refine (Scheduler.yields_duplicate session.scheduler id).mono ?_ fun _ _ => False.elim
    intro _ scheduler moves
    refine .filed known fresh found moves fun count _ goes => fares_sharing goes ?_ count
    rintro rfl tallied free
    have counted := tallied.references
    rw [tallied.free free, holders_erase holds, if_pos rfl] at counted
    exact absurd counted.symm (Nat.succ_ne_zero _)

/-- A reference is given back. -/
theorem performs_drop (known : session.Known) (intact : session.scheduler.Intact False)
    (handle : Nat) : session.Performs (.drop handle) (dropHandle handle) := by
  refine performs_withHandle known fun {id channel} holds found => ?_
  unfold Performs call
  rw [yields_bind, yields_modify, yields_bind, yields_focus]
  have passes : ∀ {scheduler : Scheduler} {result : Except Failure Reply},
      (channel.references = 1 → result = .ok .done) →
      Scheduler.Moves (Scheduler.Dropping id) session.scheduler scheduler →
      session.Passes (.drop handle) result
        { scheduler, handles := session.handles.erase handle } := by
    intro scheduler result returns moves
    refine ⟨fun there => ?_, fun other is left => ?_, ?_⟩
    · obtain ⟨next, last, goes⟩ := moves.found there
      refine ⟨next, last, fares_dropping goes holds found ?_ returns (holders_erase holds)⟩
      rintro rfl
      exact Option.some.inj (there.symm.trans found)
    · change (session.handles.erase handle).find? other = some is at left
      rw [Table.find?_erase] at left
      split at left
      · cases left
      · obtain ⟨held, there⟩ := known other is left
        obtain ⟨next, last, _⟩ := moves.found there
        exact ⟨next, last⟩
    · have fewer := (Table.perm_erase holds).length_eq
      rw [List.length_cons] at fewer
      change (session.handles.erase handle).entries.length ≤ session.handles.entries.length + 1
      omega
  refine (Scheduler.yields_drop intact found).mono ?_ ?_
  · exact fun _ _ moves => passes (fun _ => rfl) moves
  · rintro _ _ ⟨rfl, none, moves⟩
    refine ⟨?_, passes (fun last => ?_) moves⟩
    · rintro _ ⟨⟩
      exact .inl (.dropped holds found none)
    · rw [none] at last
      exact absurd last (by decide)

/-- The list that the hardware reads is read. -/
theorem performs_snapshot (known : session.Known) (list : Nat) :
    session.Performs (.snapshot list) (call (.entries <$> Scheduler.snapshot list)) := by
  unfold Performs call
  rw [yields_focus, yields_map]
  unfold Scheduler.snapshot
  rw [yields_bind, Scheduler.yields_runlist]
  cases found : session.scheduler.runlists.find? list with
  | none => exact ⟨Scheduler.allowed_of_refused ⟨_, rfl⟩, .refl known _⟩
  | some runlist =>
    dsimp only
    by_cases room : 2 * runlist.count ≤ runlist.current.wordCount
    · rw [Scheduler.readEntries_eq room]
      exact .refl known _
    · rw [yields_lift]
      split
      · exact .refl known _
      · exact ⟨fun _ _ => .inr (.inl fun legible => room (legible list runlist found)),
          .refl known _⟩

/-- However a request ends, each channel has gone on as it may, and the request aborts only for want
of room. -/
theorem performs_perform (known : session.Known) (intact : session.scheduler.Intact False)
    (request : Request) : session.Performs request (perform request) := by
  have sound := intact.sound
  cases request with
  | bind handle binding => exact performs_bind known intact handle binding
  | retain handle id => exact performs_retain known handle id
  | duplicate handle source => exact performs_duplicate known handle source
  | drop handle => exact performs_drop known intact handle
  | channel handle =>
    exact performs_withHandle known fun {id _} _ found => performs_resting known
      ((Scheduler.conducts_channelAt found).map (Reply.channel id))
  | enable handle =>
    exact performs_withHandle known fun _ found => performs_resting known
      ((Scheduler.conducts_enableChannel sound found).answering _)
  | disable handle =>
    exact performs_withHandle known fun _ found => performs_resting known
      ((Scheduler.conducts_onBus (Device.disables_channel (sound.channel_lt found))).answering _)
  | enabled handle =>
    exact performs_withHandle known fun _ found => performs_resting known
      ((Scheduler.conducts_onBus (Device.serves_channelEnabled (sound.channel_lt found))).map _)
  | acknowledge handle => exact performs_acknowledge known intact handle
  | notify handle =>
    refine performs_withHandle known fun _ found => performs_call known
      ((Scheduler.conducts_notify found).answering _) ?_
      fun _ goes => .of_rests goes (Nat.le_refl 1) rfl
    rintro _ ⟨rfl, full⟩
    exact .inl (.posted full)
  | wait handle timeout =>
    exact performs_withHandle known fun _ found => performs_call known
      ((Scheduler.conducts_waitEvent found timeout).answering _)
      (fun _ untold => .inr (.inr (.inl untold)))
      fun _ goes => .of_rests goes (Nat.zero_le 1) rfl
  | waitWoken handle waker =>
    exact performs_withHandle known fun _ found => performs_falling known
      ((Scheduler.conducts_waitWoken sound found waker).answering _) rfl
  | join handle group =>
    exact performs_withHandle known fun _ found => performs_resting known
      ((Scheduler.conducts_joinGroup found group).answering _)
  | leave handle => exact performs_leave known intact handle
  | state id =>
    refine performs_resting known (Scheduler.Conducts.map _ ?_)
    exact ((Scheduler.refuses_channel id).bind fun _ => Scheduler.refuses_pure _).conducts_of_reads
      ((Scheduler.reads_channel id).bind fun _ => Scheduler.reads_pure _)
  | update list own add wait => exact performs_update known intact list own add wait
  | snapshot list => exact performs_snapshot known list
  | active list =>
    refine performs_resting known (Scheduler.Conducts.map _ ?_)
    exact ((Scheduler.refuses_runlist list).bind fun _ =>
      Scheduler.refuses_pure _).conducts_of_reads
        ((Scheduler.reads_runlist list).bind fun _ => Scheduler.reads_pure _)
  | createGroup list =>
    exact performs_resting known ((Scheduler.conducts_createGroup list).map _)
  | destroyGroup group =>
    exact performs_resting known ((Scheduler.conducts_destroyGroup group).answering _)
  | members group =>
    refine performs_resting known (Scheduler.Conducts.map _ ?_)
    exact ((Scheduler.refuses_group group).bind fun _ =>
      Scheduler.refuses_pure _).conducts_of_reads
        ((Scheduler.reads_group group).bind fun _ => Scheduler.reads_pure _)
  | timeslice group timeslice =>
    exact performs_resting known ((Scheduler.conducts_setTimeslice group timeslice).answering _)
  | preempt target =>
    cases target with
    | channel id =>
      exact performs_ceasing known (Scheduler.ceases_preemptChannel sound id) rfl
    | group id => exact performs_ceasing known (Scheduler.ceases_preemptGroup sound id) rfl
  | disableEngine engine waitIdle =>
    exact performs_ceasing known (Scheduler.ceases_disableEngine sound engine waitIdle) rfl
  | enableEngine engine =>
    exact performs_resting known ((Scheduler.conducts_enableEngine sound engine).answering _)
  | disableAll waitIdle =>
    exact performs_ceasing known (Scheduler.ceases_disableAllEngines sound waitIdle) rfl
  | enableAll =>
    exact performs_resting known ((Scheduler.conducts_enableAllEngines sound).answering _)
  | waitIdle engine =>
    exact performs_ceasing known (Scheduler.ceases_waitEngineIdle sound engine) rfl
  | recover target reason =>
    cases target with
    | channel id =>
      exact performs_ceasing known (Scheduler.ceases_recoverChannel sound id reason) rfl
    | group id => exact performs_ceasing known (Scheduler.ceases_recoverGroup sound id reason) rfl
  | interrupts status =>
    exact performs_falling known ((Scheduler.conducts_handleInterrupts sound status).map _) rfl
  | service =>
    exact performs_falling known ((Scheduler.conducts_serviceInterrupts sound).map _) rfl
  | attach target =>
    exact performs_resting known (Scheduler.moves_of_same rfl)
  | detach target =>
    exact performs_resting known (Scheduler.moves_of_same rfl)
  | inject event =>
    refine performs_call known (?_ : Scheduler.Conducts (fun _ => True) (Scheduler.Resting 0) _ _)
      (fun _ _ => .inr (.inr (.inr ⟨event, rfl⟩))) fun _ goes => .of_rests goes (Nat.zero_le 1) rfl
    unfold Scheduler.Conducts
    rw [yields_bind, yields_get, yields_bind, yields_lift]
    split
    · exact Scheduler.moves_of_same rfl
    · exact ⟨fun _ _ => trivial, Scheduler.moves_of_same rfl⟩

/-- What holds however a request ends. -/
theorem passes_perform (known : session.Known) (intact : session.scheduler.Intact False)
    (request : Request) :
    session.Passes request (perform request session).1 (perform request session).2 ∧
      ∀ reason, (perform request session).1 = .error (.aborted reason) →
        session.Aborts request reason := by
  have performs := performs_perform known intact request
  rcases run : perform request session with ⟨failure | reply, after⟩
  · obtain ⟨allowed, passes⟩ := performs.of_error run
    exact ⟨passes, fun reason same => allowed reason (Except.error.inj same)⟩
  · exact ⟨performs.of_ok run, fun _ impossible => by cases impossible⟩

variable {config : Config} {machine : Machine} {usual : Scheduler → Prop}

/-- The records agree along every run, and handles stand for channels in the table. -/
theorem Reached.known (reached : Reached config machine usual session) :
    session.scheduler.Intact False ∧ session.Known := by
  induction reached with
  | begun timely created =>
    have new : Reached config machine (fun _ => True) _ := .begun timely created
    refine ⟨(new.intact False fun _ _ _ => False.elim).1, ?_⟩
    rintro handle id ⟨⟩
  | performed _ _ request ih =>
    obtain ⟨intact, known⟩ := ih
    exact ⟨(intact_perform intact False.elim request).1,
      (passes_perform known intact request).1.known⟩

/-- A request clears the fault of a channel: it acknowledges it, or gives the last reference to the
channel back. -/
def ClearsFault (session : Session) (request : Request) (id : Nat) : Prop :=
  ∃ handle, session.handles.find? handle = some id ∧
    (request = .acknowledge handle ∧ (perform request session).1 = .ok .done ∨
      request = .drop handle ∧ session.scheduler.channels[id]?.map (·.references) = some 1)

/-- The transitions from a faulted state clear the fault. -/
theorem Transition.clearsFault {result : Except Failure Reply} {before next : ChannelState}
    (transition : session.Transition request result id before next) (faulted : before = .faulted)
    (ends : (perform request session).1 = result) :
    next = .faulted ∨ session.ClearsFault request id := by
  cases transition with
  | bound => cases faulted
  | added _ => cases faulted
  | removed _ => cases faulted
  | left _ => cases faulted
  | faulted _ _ => exact .inl rfl
  | acknowledged holds => exact .inr ⟨_, holds, .inl ⟨rfl, ends⟩⟩
  | released holds found last =>
    exact .inr ⟨_, holds, .inr ⟨rfl, by rw [found, Option.map_some, last]⟩⟩

/-- A faulted channel stays faulted through a request that does not clear its fault. -/
theorem faultedAt_perform (known : session.Known) (intact : session.scheduler.Intact False)
    (faulted : session.scheduler.FaultedAt id) (spares : ¬session.ClearsFault request id) :
    (perform request session).2.scheduler.FaultedAt id := by
  obtain ⟨channel, found, isFaulted⟩ := Option.map_eq_some_iff.mp faulted
  obtain ⟨next, holds, fares⟩ := (passes_perform known intact request).1.found found
  have still : next.state = .faulted := by
    rcases fares.state with same | transition
    · exact same.trans isFaulted
    · exact (transition.clearsFault isFaulted rfl).resolve_right spares
  unfold Scheduler.FaultedAt
  rw [holds, Option.map_some, still]

/-- Along every run each change of the state of a channel is one of the transitions. A faulted
channel stays faulted until its fault is acknowledged or its last reference is given back, and
meanwhile every update that adds it and every request to enable it is refused and changes
nothing. -/
theorem state_changes (reached : Reached config machine usual session) :
    (∀ request id channel, session.scheduler.channels[id]? = some channel →
      ∃ next, (perform request session).2.scheduler.channels[id]? = some next ∧
        (next.state = channel.state ∨
          session.Transition request (perform request session).1 id channel.state next.state)) ∧
    ∀ id, session.scheduler.FaultedAt id → ∀ later,
      Since (fun session request => ¬session.ClearsFault request id) session later →
        later.scheduler.FaultedAt id ∧
        (∀ list wait, ∃ error,
          perform (.update list (some id) true wait) later = (.error (.refused error), later)) ∧
        ∀ handle, later.handles.find? handle = some id →
          perform (.enable handle) later = (.error (.refused (.channelFaulted id)), later) := by
  obtain ⟨intact, known⟩ := reached.known
  refine ⟨fun request id channel found => ?_, fun id faulted later since => ?_⟩
  · obtain ⟨next, holds, fares⟩ := (passes_perform known intact request).1.found found
    exact ⟨next, holds, fares.state⟩
  · have still : later.scheduler.FaultedAt id ∧ later.scheduler.Intact False ∧ later.Known := by
      induction since with
      | start => exact ⟨faulted, intact, known⟩
      | performed _ request spares ih =>
        obtain ⟨faulted, intact, known⟩ := ih
        exact ⟨faultedAt_perform known intact faulted spares,
          (intact_perform intact False.elim request).1,
          (passes_perform known intact request).1.known⟩
    obtain ⟨channel, found, isFaulted⟩ := Option.map_eq_some_iff.mp still.1
    refine ⟨still.1, fun list wait => ?_, fun handle holds => ?_⟩
    · obtain ⟨error, run, _⟩ := Scheduler.updateRunlist_faulted found isFaulted list wait
      refine ⟨error, (call_done _ later).trans ?_⟩
      rw [run]
      rfl
    · have read : (get : Operation Session Session) later = (.ok later, later) := rfl
      have run := Scheduler.enableChannel_faulted found isFaulted
      change withHandle handle _ later = _
      unfold withHandle
      rw [run_bind_of_ok read, holds]
      refine (call_done _ later).trans ?_
      rw [run]
      rfl

/-- A channel is added to its runlist and recovered. -/
def recovered : List Request :=
  [.bind 0 { runlist := 0 }, .bind 1 { runlist := 0 }, .update 0 (some 0) true true,
    .recover (.channel 0) .forced]

/-- What leaves a faulted channel alone. -/
def elsewhere : List Request :=
  [.update 0 (some 0) false true, .createGroup 0, .join 0 0, .join 1 0,
    .update 0 (some 1) true true, .retain 2 0, .service, .recover (.group 0) .forced]

/-- A channel that has been recovered stays faulted while it is shared, another channel is updated
and a group is recovered, until its fault is acknowledged. -/
theorem state_changes_of_recovered : ∃ session later,
    Reached oneEngine poweredUp (fun _ => True) session ∧ session.scheduler.FaultedAt 0 ∧
      Since (fun session request => ¬session.ClearsFault request 0) session later ∧
      later.handles.find? 0 = some 0 ∧ later.scheduler.FaultedAt 0 ∧
      (∃ error, perform (.update 0 (some 0) true true) later = (.error (.refused error), later)) ∧
      perform (.enable 0) later = (.error (.refused (.channelFaulted 0)), later) ∧
      session.Transition (.acknowledge 0) (perform (.acknowledge 0) session).1 0 .faulted
        .bound := by
  have outcome : (Scheduler.create oneEngine poweredUp).toOption.map (fun scheduler => decide
      ((performAll { scheduler } recovered).scheduler.FaultedAt 0 ∧
        (performAll (performAll { scheduler } recovered) elsewhere).handles.find? 0 = some 0 ∧
        (perform (.acknowledge 0) (performAll { scheduler } recovered)).2.scheduler.channels[0]?.map
          (·.state) = some .bound)) = some true := by decide +kernel
  obtain ⟨scheduler, created, holds⟩ := exists_created outcome
  obtain ⟨faulted, held, bound⟩ := decide_eq_true_iff.mp holds
  have reached : Reached oneEngine poweredUp (fun _ => True) (performAll { scheduler } recovered) :=
    (Reached.created created).performAll fun _ _ => trivial
  have since : Since (fun session request => ¬session.ClearsFault request 0)
      (performAll { scheduler } recovered)
      (performAll (performAll { scheduler } recovered) elsewhere) := by
    refine Since.start.performAll_of_always fun request mem session => ?_
    rintro ⟨handle, -, ⟨rfl, -⟩ | ⟨rfl, -⟩⟩
    · simp [elsewhere] at mem
    · simp [elsewhere] at mem
  obtain ⟨changes, stays⟩ := state_changes reached
  obtain ⟨channel, found, state⟩ := Option.map_eq_some_iff.mp faulted
  obtain ⟨next, there, change⟩ := changes (.acknowledge 0) 0 channel found
  rw [there, Option.map_some, Option.some.injEq] at bound
  rw [bound, state] at change
  obtain ⟨still, adding, enabling⟩ := stays 0 faulted _ since
  exact ⟨_, _, reached, faulted, since, held, still, adding 0 true, enabling 0 held,
    change.resolve_left (by decide)⟩

end Session

end GpuSched
