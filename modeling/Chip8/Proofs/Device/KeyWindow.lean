import Mathlib
import Chip8.Device.Keyboard

/-!
# For how long a key is held

A terminal does not say when a key goes up, so the keyboard counts polls.  The counters are
not needed to tell what a poll answers: a key is held if one of the events that this poll
and the five before it have read stands for it, and all of them are if one of these events
is a space.

Which events a poll reads depends on the failures of the polls before, as each of them
leaves the rest of its group behind.  It does not depend on what the events are about, so it
is defined on the groups alone.  A poll that fails keeps what it has read and counts as a
poll.

Seventeen counters go down with each poll and are set again by some of the events.
`lt_countdown_iff` is about any counter of this kind.  The rest says which events set which
of them.
-/

namespace Chip8

/-! ## What events are about -/

/-- The small letter, or the digit, that stands for a key. -/
def HeldKeys.letter (key : Key) : Char :=
  layout.get (key.cast rfl)

namespace TerminalEvent

/-- Why the terminal cannot be read. -/
def reason? : TerminalEvent → Option String
  | .failure reason => some reason
  | .key _ _ | .resize => none

def IsSpace : TerminalEvent → Prop
  | .key (.character c) _ => c = ' '
  | .key .escape _ | .key (.other _) _ | .resize | .failure _ => False

/-- Escape, or a small `c` together with control. -/
def AsksToStop : TerminalEvent → Prop
  | .key .escape _ => True
  | .key (.character c) modifiers => c = 'c' ∧ modifiers.control = true
  | .key (.other _) _ | .resize | .failure _ => False

/-- A character that stands for a key, in either case and unless it asks to stop. -/
def Types (key : Key) : TerminalEvent → Prop
  | .key (.character c) modifiers =>
      (c = HeldKeys.letter key ∨ c = (HeldKeys.letter key).toUpper) ∧
        ¬ (c = 'c' ∧ modifiers.control = true)
  | .key .escape _ | .key (.other _) _ | .resize | .failure _ => False

instance : DecidablePred IsSpace
  | .key (.character c) _ => inferInstanceAs (Decidable (c = ' '))
  | .key .escape _ | .key (.other _) _ | .resize | .failure _ => inferInstanceAs (Decidable False)

instance : DecidablePred AsksToStop
  | .key .escape _ => inferInstanceAs (Decidable True)
  | .key (.character _) _ => inferInstanceAs (Decidable (_ ∧ _))
  | .key (.other _) _ | .resize | .failure _ => inferInstanceAs (Decidable False)

instance (key : Key) : DecidablePred (Types key)
  | .key (.character _) _ => inferInstanceAs (Decidable ((_ ∨ _) ∧ ¬ _))
  | .key .escape _ | .key (.other _) _ | .resize | .failure _ => inferInstanceAs (Decidable False)

/-- An event that can be read and is about none of this. -/
def IsOther (event : TerminalEvent) : Prop :=
  event.reason? = none ∧ ¬ event.IsSpace ∧ ¬ event.AsksToStop ∧ ∀ key, ¬ event.Types key

instance : DecidablePred IsOther :=
  fun _ => inferInstanceAs (Decidable (_ ∧ _ ∧ _ ∧ _))

end TerminalEvent

namespace HeldKeys

open TerminalEvent

theorem toLower_letter (key : Key) : (letter key).toLower = letter key := by
  revert key
  decide

theorem letter_injective : Function.Injective letter := by
  intro key other
  revert key other
  decide

theorem toLower_eq_letter {c : Char} {key : Key} :
    c.toLower = letter key ↔ c = letter key ∨ c = (letter key).toUpper := by
  constructor
  · intro hlower
    by_cases hcase : c.isLower
    · left
      rw [← hlower, Char.toLower_eq_of_not_isUpper (Char.not_isUpper_of_isLower hcase)]
    · right
      rw [← hlower, Char.toUpper_toLower_eq_toUpper, Char.toUpper_eq_of_not_isLower hcase]
  · rintro (rfl | rfl)
    · exact toLower_letter key
    · rw [Char.toLower_toUpper_eq_toLower, toLower_letter]

theorem layout_getElem? (key : Key) : layout[key.val]? = some (letter key) := by
  revert key
  decide

/-- The key of a character is the one whose letter it is, in either case. -/
theorem keyOf?_eq_some_iff {c : Char} {key : Key} :
    keyOf? c = some key ↔ c = letter key ∨ c = (letter key).toUpper := by
  rw [← toLower_eq_letter]
  simp only [keyOf?, layout_getElem?, Option.some.injEq]
  constructor
  · intro hfound
    have hletter := List.find?_some hfound
    exact (decide_eq_true_iff.mp hletter).symm
  · intro hlower
    cases hfound : (List.finRange 16).find? fun other => letter other = c.toLower with
    | none =>
        have hnone := List.find?_eq_none.mp hfound key (List.mem_finRange key)
        simp [hlower] at hnone
    | some other =>
        have hletter := List.find?_some hfound
        rw [decide_eq_true_iff, hlower] at hletter
        rw [letter_injective hletter]

/-! ## One event -/

variable {held next : HeldKeys} {event : TerminalEvent}

/-- What an event does to the counters, by what it is about.  It is about one thing at
most. -/
inductive Received (held : HeldKeys) (event : TerminalEvent) : HeldKeys → Prop where
  | stop (hstop : event.AsksToStop) (hspace : ¬ event.IsSpace)
      (htypes : ∀ key, ¬ event.Types key) : Received held event { held with quit := true }
  | space (hspace : event.IsSpace) (hstop : ¬ event.AsksToStop)
      (htypes : ∀ key, ¬ event.Types key) :
      Received held event { held with allRemaining := holdPolls }
  | types (key : Key) (remaining : Vector Nat 16)
      (htypes : ∀ other, event.Types other ↔ other = key) (hspace : ¬ event.IsSpace)
      (hstop : ¬ event.AsksToStop) (hremaining : ∀ other, remaining.get other
        = if other = key then holdPolls else held.remaining.get other) :
      Received held event { held with remaining := remaining }
  | nothing (hspace : ¬ event.IsSpace) (hstop : ¬ event.AsksToStop)
      (htypes : ∀ key, ¬ event.Types key) : Received held event held

/-- A character that does not ask to stop is about the key that it stands for. -/
theorem types_character {c : Char} {modifiers : Modifiers} {key : Key}
    (hstop : ¬ (c = 'c' ∧ modifiers.control = true)) :
    (TerminalEvent.key (.character c) modifiers).Types key ↔ keyOf? c = some key := by
  rw [keyOf?_eq_some_iff]
  exact and_iff_left hstop

theorem get_set (counters : Vector Nat 16) (key other : Key) (hkey : key.val < 16) :
    (counters.set key.val holdPolls hkey).get other
      = if other = key then holdPolls else counters.get other := by
  rw [Vector.get_eq_getElem, Vector.getElem_set]
  simp only [Fin.ext_iff, eq_comm]
  rfl

theorem received_typed (held : HeldKeys) (c : Char) (modifiers : Modifiers) :
    Received held (.key (.character c) modifiers) (held.typed c modifiers) := by
  rw [typed]
  by_cases hstop : c = 'c' ∧ modifiers.control = true
  · rw [if_pos hstop]
    refine .stop hstop ?_ fun key htypes => htypes.2 hstop
    rintro rfl
    exact absurd hstop.1 (by decide)
  · rw [if_neg hstop]
    by_cases hspace : c = ' '
    · subst hspace
      have hnone : keyOf? ' ' = none := by decide
      rw [if_pos rfl]
      refine .space rfl hstop fun key htypes => ?_
      rw [types_character hstop, hnone] at htypes
      contradiction
    · rw [if_neg hspace]
      cases hkey : keyOf? c with
      | none =>
          refine .nothing hspace hstop fun key htypes => ?_
          rw [types_character hstop, hkey] at htypes
          contradiction
      | some key =>
          refine .types key _ (fun other => ?_) hspace hstop fun other =>
            get_set held.remaining key other key.isLt
          rw [types_character hstop, hkey, Option.some.injEq]
          exact eq_comm

theorem received (held : HeldKeys) (event : TerminalEvent) :
    Received held event (held.receive event) := by
  cases event with
  | resize => exact .nothing id id fun _ => id
  | failure reason => exact .nothing id id fun _ => id
  | key pressed modifiers =>
      cases pressed with
      | escape => exact .stop trivial id fun _ => id
      | other name => exact .nothing id id fun _ => id
      | character c => exact received_typed held c modifiers

theorem Received.remaining (hreceived : Received held event next) (key : Key) :
    next.remaining.get key = if event.Types key then holdPolls else held.remaining.get key := by
  cases hreceived with
  | stop _ _ htypes => rw [if_neg (htypes key)]
  | space _ _ htypes => rw [if_neg (htypes key)]
  | nothing _ _ htypes => rw [if_neg (htypes key)]
  | types pressed remaining htypes _ _ hremaining =>
      rw [hremaining]
      simp only [htypes]

theorem Received.allRemaining (hreceived : Received held event next) :
    next.allRemaining = if event.IsSpace then holdPolls else held.allRemaining := by
  cases hreceived with
  | stop _ hspace => rw [if_neg hspace]
  | space hspace => rw [if_pos hspace]
  | types _ _ _ hspace => rw [if_neg hspace]
  | nothing hspace => rw [if_neg hspace]

theorem Received.quit (hreceived : Received held event next) :
    next.quit = true ↔ held.quit = true ∨ event.AsksToStop := by
  cases hreceived with
  | stop hstop => simp [hstop]
  | space _ hstop => simp [hstop]
  | types _ _ _ _ hstop => simp [hstop]
  | nothing _ hstop => simp [hstop]

/-- An event about nothing changes nothing. -/
theorem Received.eq_of_isOther (hreceived : Received held event next) (hother : event.IsOther) :
    next = held := by
  obtain ⟨-, hspace, hstop, htypes⟩ := hother
  cases hreceived with
  | stop h => exact absurd h hstop
  | space h => exact absurd h hspace
  | types key _ h => exact absurd ((h key).mpr rfl) (htypes key)
  | nothing => rfl

/-! ## Counters -/

/-- A counter that goes down with each poll and is set by the events about one thing. -/
structure Counts (counter : HeldKeys → Nat) (about : TerminalEvent → Prop)
    [DecidablePred about] : Prop where
  idle : counter {} = 0
  fade : ∀ held : HeldKeys, counter held.fade = counter held - 1
  receive : ∀ (held : HeldKeys) (event : TerminalEvent),
    counter (held.receive event) = if about event then holdPolls else counter held

theorem counts_remaining (key : Key) : Counts (fun held => held.remaining.get key) (Types key) where
  idle := by simp [Vector.get_eq_getElem]
  fade held := by simp [HeldKeys.fade, Vector.get_eq_getElem]
  receive held event := (received held event).remaining key

theorem counts_allRemaining : Counts allRemaining IsSpace where
  idle := rfl
  fade _ := rfl
  receive held event := (received held event).allRemaining

theorem Counts.foldl {counter : HeldKeys → Nat} {about : TerminalEvent → Prop}
    [DecidablePred about] (hcounts : Counts counter about) (held : HeldKeys)
    (events : List TerminalEvent) :
    counter (events.foldl HeldKeys.receive held)
      = if ∃ event ∈ events, about event then holdPolls else counter held := by
  induction events generalizing held with
  | nil => simp
  | cons event events ih =>
      rw [List.foldl_cons, ih, hcounts.receive]
      by_cases hlater : ∃ later ∈ events, about later <;> simp [hlater]

/-- A counter that goes down with each step, except that a hit sets it to `span`.  It is
above `age` if there was a hit less than `span - age` steps ago. -/
theorem lt_countdown_iff (counter : Nat → Nat) (hit : Nat → Prop) [DecidablePred hit]
    {span : Nat} (hzero : counter 0 = 0)
    (hsucc : ∀ step, counter (step + 1) = if hit step then span else counter step - 1)
    (step age : Nat) :
    age < counter (step + 1) ↔ ∃ earlier ≤ step, step + age < earlier + span ∧ hit earlier := by
  induction step generalizing age with
  | zero =>
      rw [hsucc, hzero]
      simp only [Nat.le_zero, exists_eq_left]
      split <;> simp_all
  | succ step ih =>
      rw [hsucc]
      by_cases hhit : hit (step + 1)
      · rw [if_pos hhit]
        constructor
        · intro hage
          exact ⟨step + 1, le_rfl, by omega, hhit⟩
        · rintro ⟨earlier, hle, hlt, -⟩
          omega
      · rw [if_neg hhit, Nat.lt_sub_iff_add_lt, ih]
        -- the last step was no hit, so the hits up to it are those up to the one before
        constructor
        · rintro ⟨earlier, hle, hlt, hearlier⟩
          exact ⟨earlier, by omega, by omega, hearlier⟩
        · rintro ⟨earlier, hle, hlt, hearlier⟩
          have hne : earlier ≠ step + 1 := fun heq => hhit (heq ▸ hearlier)
          exact ⟨earlier, by omega, by omega, hearlier⟩

/-! ## The events of a poll -/

theorem quit_foldl (held : HeldKeys) (events : List TerminalEvent) :
    (events.foldl receive held).quit = true
      ↔ held.quit = true ∨ ∃ event ∈ events, event.AsksToStop := by
  induction events generalizing held with
  | nil => simp
  | cons event events ih =>
      rw [List.foldl_cons, ih, (received held event).quit, or_assoc, List.exists_mem_cons_iff]

/-- Events up to the first failure are taken in one after another. -/
theorem receiveAll_eq (held : HeldKeys) (events : List TerminalEvent) :
    held.receiveAll events
      = ((events.takeWhile Keyboard.isReadable).foldl receive held,
          (events.dropWhile Keyboard.isReadable).tail, events.findSome? reason?) := by
  fun_induction receiveAll held events with
  | case1 held => rfl
  | case2 held reason rest => rfl
  | case3 held event rest hreadable ih =>
      cases event with
      | failure reason => exact absurd rfl (hreadable reason)
      | key pressed modifiers => exact ih
      | resize => exact ih

/-! ## The mask -/

/-- Adding the bit of a key to a mask. -/
theorem holds_or_bit (mask : KeyMask) (added key : Key) :
    KeyMask.holds (mask ||| 1 <<< UInt16.ofNat added) key
      = (KeyMask.holds mask key || decide (key = added)) := by
  have hbit : ∀ added key : Key,
      ((1 : UInt16) <<< UInt16.ofNat added).toNat.testBit key = decide (key = added) := by
    decide +kernel
  rw [KeyMask.holds, UInt16.toNat_or, Nat.testBit_or, hbit]
  rfl

/-- Adding the bits of some of the keys. -/
theorem holds_foldl (chosen : Key → Prop) [DecidablePred chosen] (keys : List Key) (mask : KeyMask)
    (key : Key) :
    KeyMask.holds (keys.foldl (fun (mask : KeyMask) (added : Key) =>
        if chosen added then mask ||| 1 <<< UInt16.ofNat added else mask) mask) key = true
      ↔ KeyMask.holds mask key = true ∨ key ∈ keys ∧ chosen key := by
  induction keys generalizing mask with
  | nil => simp
  | cons added keys ih =>
      rw [List.foldl_cons, ih, List.mem_cons, or_and_right, ← or_assoc]
      refine or_congr_left ?_
      by_cases hadded : chosen added
      · rw [if_pos hadded, holds_or_bit, Bool.or_eq_true, decide_eq_true_iff]
        refine or_congr_right ⟨?_, And.left⟩
        rintro rfl
        exact ⟨rfl, hadded⟩
      · rw [if_neg hadded]
        refine (or_iff_left ?_).symm
        rintro ⟨rfl, hkey⟩
        exact hadded hkey

/-- Unless all keys are held, those are whose counter is not at zero. -/
theorem holds_mask {held : HeldKeys} (hall : ¬ 0 < held.allRemaining) (key : Key) :
    KeyMask.holds held.mask key = true ↔ 0 < held.remaining.get key := by
  rw [mask, if_neg hall]
  refine (holds_foldl (fun key => 0 < held.remaining.get key) _ _ key).trans ?_
  simp [KeyMask.holds]

end HeldKeys

namespace Keyboard

open TerminalEvent

/-! ## What each poll reads -/

/-- The groups that a poll leaves.  If it fails, what it has not read of the first group
stays in front of the others. -/
def groupsLeft (groups : List (List TerminalEvent)) : List (List TerminalEvent) :=
  if (groups.headD []).all isReadable then
    groups.tail
  else
    ((groups.headD []).dropWhile isReadable).tail :: groups.tail

/-- The groups that are left before a poll.  Polls are numbered from zero. -/
def groupsBefore (groups : List (List TerminalEvent)) : Nat → List (List TerminalEvent)
  | 0 => groups
  | poll + 1 => groupsLeft (groupsBefore groups poll)

/-- The events that a poll reads. -/
def eventsRead (groups : List (List TerminalEvent)) (poll : Nat) : List TerminalEvent :=
  ((groupsBefore groups poll).headD []).takeWhile isReadable

/-- Why a poll fails, if it does. -/
def failure? (groups : List (List TerminalEvent)) (poll : Nat) : Option String :=
  ((groupsBefore groups poll).headD []).findSome? reason?

/-- Such an event was read by the poll or by one of the five before it. -/
def InWindow (groups : List (List TerminalEvent)) (poll : Nat) (about : TerminalEvent → Prop) :
    Prop :=
  ∃ earlier, earlier ≤ poll ∧ poll ≤ earlier + 5 ∧ ∃ event ∈ eventsRead groups earlier, about event

/-- What a poll answers, by the events of the window that it ends. -/
structure AnswersWindow (groups : List (List TerminalEvent)) (poll : Nat)
    (answer : Except IoError KeyMask) : Prop where
  fails : ∀ reason, failure? groups poll = some reason → answer = .error (.device reason)
  all : failure? groups poll = none → InWindow groups poll IsSpace → answer = .ok 0xFFFF
  keys : failure? groups poll = none → ¬ InWindow groups poll IsSpace →
    ∃ mask, answer = .ok mask ∧
      ∀ key, KeyMask.holds mask key = true ↔ InWindow groups poll (Types key)

/-- A keyboard after so many polls. -/
def afterPolls (keyboard : Keyboard) : Nat → Keyboard
  | 0 => keyboard
  | polls + 1 => (InputDevice.poll (keyboard.afterPolls polls)).2

/-! ## The keys after each poll -/

variable {keyboard : Keyboard} {groups : List (List TerminalEvent)}

/-- The keys as they are when a poll has read its events. -/
def heldAfter (keyboard : Keyboard) : HeldKeys :=
  (keyboard.pendingEvents.takeWhile isReadable).foldl HeldKeys.receive keyboard.held.fade

theorem isReadable_iff {event : TerminalEvent} :
    isReadable event = true ↔ event.reason? = none := by
  cases event <;> simp [isReadable, reason?]

theorem poll_of_none (hnone : keyboard.pendingEvents.findSome? reason? = none) :
    keyboard.poll = (.ok keyboard.heldAfter.mask,
      { keyboard with held := keyboard.heldAfter, groups := groupsLeft keyboard.groups }) := by
  have hall : keyboard.pendingEvents.all isReadable = true := by
    simpa only [List.all_eq_true, isReadable_iff] using List.findSome?_eq_none_iff.mp hnone
  have hleft : groupsLeft keyboard.groups = keyboard.groups.tail := if_pos hall
  rw [poll, HeldKeys.receiveAll_eq, hnone, hleft]
  rfl

theorem poll_of_some {reason : String}
    (hsome : keyboard.pendingEvents.findSome? reason? = some reason) :
    keyboard.poll = (.error (.device reason),
      { keyboard with held := keyboard.heldAfter, groups := groupsLeft keyboard.groups }) := by
  obtain ⟨event, hmem, hreason⟩ := List.exists_of_findSome?_eq_some hsome
  have hall : ¬ keyboard.pendingEvents.all isReadable = true := by
    intro hall
    have hreadable := List.all_eq_true.mp hall event hmem
    rw [isReadable_iff, hreason] at hreadable
    contradiction
  have hleft : groupsLeft keyboard.groups
      = (keyboard.pendingEvents.dropWhile isReadable).tail :: keyboard.groups.tail := if_neg hall
  rw [poll, HeldKeys.receiveAll_eq, hsome, hleft]
  rfl

theorem poll_snd (keyboard : Keyboard) : keyboard.poll.2
    = { keyboard with held := keyboard.heldAfter, groups := groupsLeft keyboard.groups } := by
  cases hreason : keyboard.pendingEvents.findSome? reason? with
  | none => rw [poll_of_none hreason]
  | some reason => rw [poll_of_some hreason]

theorem groups_afterPolls (keyboard : Keyboard) (polls : Nat) :
    (keyboard.afterPolls polls).groups = groupsBefore keyboard.groups polls := by
  induction polls with
  | zero => rfl
  | succ polls ih =>
      show (keyboard.afterPolls polls).poll.2.groups = groupsLeft (groupsBefore _ polls)
      rw [poll_snd, ← ih]

/-- The next poll takes in the events that are read by the groups alone. -/
theorem held_afterPolls_succ (keyboard : Keyboard) (polls : Nat) :
    (keyboard.afterPolls (polls + 1)).held
      = (eventsRead keyboard.groups polls).foldl HeldKeys.receive
          (keyboard.afterPolls polls).held.fade := by
  show (keyboard.afterPolls polls).poll.2.held = _
  rw [poll_snd, eventsRead, ← groups_afterPolls]
  rfl

/-- The window is the polls from less than six polls ago on. -/
theorem inWindow_iff {poll : Nat} {about : TerminalEvent → Prop} :
    (∃ earlier ≤ poll, poll + 0 < earlier + HeldKeys.holdPolls ∧
        ∃ event ∈ eventsRead groups earlier, about event)
      ↔ InWindow groups poll about := by
  refine exists_congr fun earlier => and_congr_right fun _ => and_congr_left fun _ => ?_
  rw [HeldKeys.holdPolls]
  omega

/-- A counter is not at zero exactly if one of the events that set it is in the window. -/
theorem counter_pos_iff {counter : HeldKeys → Nat} {about : TerminalEvent → Prop}
    [DecidablePred about] (hcounts : HeldKeys.Counts counter about) (hheld : keyboard.held = {})
    (poll : Nat) :
    0 < counter (keyboard.afterPolls (poll + 1)).held ↔ InWindow keyboard.groups poll about := by
  rw [← inWindow_iff]
  refine HeldKeys.lt_countdown_iff (fun polls => counter (keyboard.afterPolls polls).held)
    (fun earlier => ∃ event ∈ eventsRead keyboard.groups earlier, about event) ?_ ?_ poll 0
  · show counter keyboard.held = 0
    rw [hheld, hcounts.idle]
  · intro polls
    rw [held_afterPolls_succ, hcounts.foldl, hcounts.fade]

theorem quit_iff (hheld : keyboard.held = {}) (polls : Nat) :
    (keyboard.afterPolls polls).held.quit = true
      ↔ ∃ earlier < polls, ∃ event ∈ eventsRead keyboard.groups earlier, event.AsksToStop := by
  induction polls with
  | zero => simp [afterPolls, hheld]
  | succ polls ih =>
      rw [held_afterPolls_succ, HeldKeys.quit_foldl, Nat.exists_lt_succ_right, ← ih]
      rfl

theorem answersWindow (hheld : keyboard.held = {}) (poll : Nat) :
    AnswersWindow keyboard.groups poll (InputDevice.poll (keyboard.afterPolls poll)).1 := by
  have hpending : (keyboard.afterPolls poll).pendingEvents.findSome? reason?
      = failure? keyboard.groups poll := by
    rw [failure?, ← groups_afterPolls]
    rfl
  have hafter : (keyboard.afterPolls poll).heldAfter = (keyboard.afterPolls (poll + 1)).held :=
    (congrArg held (poll_snd _)).symm
  constructor
  · intro reason hsome
    exact congrArg Prod.fst (poll_of_some (hpending.trans hsome))
  · intro hnone hspace
    have hall := (counter_pos_iff HeldKeys.counts_allRemaining hheld poll).mpr hspace
    refine (congrArg Prod.fst (poll_of_none (hpending.trans hnone))).trans ?_
    rw [hafter, HeldKeys.mask, if_pos hall]
  · intro hnone hspace
    have hall := mt (counter_pos_iff HeldKeys.counts_allRemaining hheld poll).mp hspace
    refine ⟨_, congrArg Prod.fst (poll_of_none (hpending.trans hnone)), fun key => ?_⟩
    rw [hafter, HeldKeys.holds_mask hall]
    exact counter_pos_iff (HeldKeys.counts_remaining key) hheld poll

/-! ## The events about nothing -/

/-- The groups without the events that are about nothing. -/
def withoutOthers (groups : List (List TerminalEvent)) : List (List TerminalEvent) :=
  groups.map fun group => group.filter fun event => ¬ event.IsOther

/-- A keyboard whose polls to come find no such events. -/
def quieted (keyboard : Keyboard) : Keyboard :=
  { keyboard with groups := withoutOthers keyboard.groups }

theorem receiveAll_filter (held : HeldKeys) (events : List TerminalEvent) :
    held.receiveAll (events.filter fun event => ¬ event.IsOther)
      = ((held.receiveAll events).1,
          (held.receiveAll events).2.1.filter fun event => ¬ event.IsOther,
          (held.receiveAll events).2.2) := by
  fun_induction HeldKeys.receiveAll held events with
  | case1 held => rfl
  | case2 held reason rest => rfl
  | case3 held event rest hreadable ih =>
      by_cases hother : event.IsOther
      · rw [List.filter_cons_of_neg (by simpa using hother), ← ih,
          (HeldKeys.received held event).eq_of_isOther hother]
      · rw [List.filter_cons_of_pos (by simpa using hother), HeldKeys.receiveAll, ih]
        exact hreadable

theorem pendingEvents_quieted (keyboard : Keyboard) :
    keyboard.quieted.pendingEvents
      = keyboard.pendingEvents.filter fun event => ¬ event.IsOther := by
  simp only [pendingEvents, quieted, withoutOthers]
  cases keyboard.groups <;> rfl

theorem poll_quieted (keyboard : Keyboard) :
    keyboard.quieted.poll = (keyboard.poll.1, keyboard.poll.2.quieted) := by
  have hheld : keyboard.quieted.held = keyboard.held := rfl
  rw [poll, poll, pendingEvents_quieted, hheld, receiveAll_filter]
  obtain ⟨held, unread, reason⟩ := keyboard.held.fade.receiveAll keyboard.pendingEvents
  cases reason with
  | none => simp [quieted, withoutOthers]
  | some reason => simp [quieted, withoutOthers]

theorem afterPolls_quieted (keyboard : Keyboard) (polls : Nat) :
    keyboard.quieted.afterPolls polls = (keyboard.afterPolls polls).quieted := by
  induction polls with
  | zero => rfl
  | succ polls ih =>
      show (keyboard.quieted.afterPolls polls).poll.2 = (keyboard.afterPolls polls).poll.2.quieted
      rw [ih, poll_quieted]

/-! ## A keyboard that is taken into use -/

/-- A poll holds the keys that the events of its window stand for, all of them if one of
these events is a space.  The keyboard asks to stop from the first poll on that has read
such a wish.  Events about neither may as well be left out. -/
theorem answers_by_window (groups : List (List TerminalEvent)) :
    ∃ keyboard quieter, open? groups none = .ok keyboard ∧
      open? (withoutOthers groups) none = .ok quieter ∧
      ∀ poll,
        AnswersWindow groups poll (InputDevice.poll (keyboard.afterPolls poll)).1 ∧
        (InputDevice.quitRequested (keyboard.afterPolls (poll + 1)) = true
          ↔ ∃ earlier ≤ poll, ∃ event ∈ eventsRead groups earlier, event.AsksToStop) ∧
        (InputDevice.poll (quieter.afterPolls poll)).1
          = (InputDevice.poll (keyboard.afterPolls poll)).1 ∧
        InputDevice.quitRequested (quieter.afterPolls (poll + 1))
          = InputDevice.quitRequested (keyboard.afterPolls (poll + 1)) := by
  obtain ⟨keyboard, hkeyboard⟩ : ∃ keyboard : Keyboard,
    keyboard = { groups := groups, rawMode := true } := ⟨_, rfl⟩
  have hgroups : keyboard.groups = groups := by rw [hkeyboard]
  have hheld : keyboard.held = {} := by rw [hkeyboard]
  refine ⟨keyboard, keyboard.quieted, ?_, ?_, fun poll => ⟨?_, ?_, ?_, ?_⟩⟩
  · rw [hkeyboard]
    rfl
  · rw [hkeyboard]
    rfl
  · exact hgroups ▸ answersWindow hheld poll
  · simp only [← Nat.lt_succ_iff, ← hgroups]
    exact quit_iff hheld (poll + 1)
  · rw [afterPolls_quieted]
    show (keyboard.afterPolls poll).quieted.poll.1 = (keyboard.afterPolls poll).poll.1
    rw [poll_quieted]
  · rw [afterPolls_quieted]
    rfl

/-- A key that is typed once is held for six polls. -/
example : ∀ poll < 8, (InputDevice.poll
    (Keyboard.afterPolls { groups := [[.key (.character 'Q') {}]] } poll)).1.toOption
      = some (if poll < 6 then 0x10 else 0) := by
  decide +kernel

end Keyboard

end Chip8
