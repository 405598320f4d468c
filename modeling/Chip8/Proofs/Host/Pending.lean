import Chip8.Proofs.Host.Observed

/-!
# Marks and requests

A mark stays until the host has handed the marked part over: the screen to the
display, the flags to the files.  So a part is marked exactly if it was touched by
an instruction since the last time that it was taken.
-/

namespace Chip8

namespace Host

variable {Input Display Sound Store : Type}

/-! ## The instructions of a tick -/

section Attempts

variable {Part : Type} (mark : Machine.Mark Part)

/-- Counting the timers down leaves the part alone. -/
theorem part_andThen_countTick (outcome : Outcome Input Display Sound Store) :
    mark.part (outcome.andThen countTick).host.machine = mark.part outcome.host.machine := by
  unfold Outcome.andThen
  split
  · exact mark.part_tick _
  · rfl

variable [InputDevice Input]

/-- The machines whose next instruction a tick carries out, or fails on. -/
def attempts (host : Host Input Display Sound Store) : List Machine :=
  match (InputDevice.poll host.input).1 with
  | .error _ => []
  | .ok mask => (host.machine.setKeys mask).attempts host.config.instructionsPerTick

/-- The tick clears the screen, or draws a sprite that is not blank. -/
def Paints (host : Host Input Display Sound Store) : Prop :=
  ∃ attempt ∈ host.attempts, attempt.Paints

/-- The tick stores to the flags. -/
def StoresFlags (host : Host Input Display Sound Store) : Prop :=
  ∃ attempt ∈ host.attempts, attempt.StoresFlags

instance (host : Host Input Display Sound Store) : Decidable host.StoresFlags :=
  inferInstanceAs (Decidable (∃ attempt ∈ host.attempts, attempt.StoresFlags))

/-- The instructions of a tick set a mark, or leave the part as it was. -/
theorem mark_counted (host : Host Input Display Sound Store) :
    ((∃ attempt ∈ host.attempts, mark.SetBy attempt) ∧
        mark.isSet (mark.part host.counted.host.machine) = true) ∨
      ((∀ attempt ∈ host.attempts, ¬ mark.SetBy attempt) ∧
        mark.part host.counted.host.machine = mark.part host.machine) := by
  rw [counted, part_andThen_countTick, attempts]
  rcases host.stepped_cases host.config.instructionsPerTick with
    ⟨error, hpoll, -, -, hmachine⟩ | ⟨mask, hpoll, hmachine, -⟩
  · rw [hpoll, hmachine]
    exact .inr ⟨by simp, rfl⟩
  · rw [hpoll, hmachine, ← mark.part_setKeys host.machine mask]
    exact mark.of_stepsFrom (host.machine.setKeys mask) 0 host.config.instructionsPerTick

/-- After the instructions, a mark is set if it was, or if one of them has set it. -/
theorem isSet_counted (host : Host Input Display Sound Store) :
    mark.isSet (mark.part host.counted.host.machine) = true ↔
      mark.isSet (mark.part host.machine) = true ∨
        ∃ attempt ∈ host.attempts, mark.SetBy attempt := by
  rcases host.mark_counted mark with ⟨hsets, hset⟩ | ⟨hnone, hsame⟩
  · exact ⟨fun _ => .inr hsets, fun _ => hset⟩
  · rw [hsame]
    refine ⟨.inl, ?_⟩
    rintro (hset | ⟨attempt, hattempt, hsets⟩)
    · exact hset
    · exact absurd hsets (hnone attempt hattempt)

end Attempts

/-! ## Handing over -/

section Offered

variable {Device Request : Type}

/-- What a tick does about a mark.  If it gets to the device and the mark is set, it
makes one request, and only then.  The mark goes if the request is granted, and the
tick fails if it is refused. -/
inductive Offered (reached : Prop) (request : Request) (before after : Observed Device Request)
    (marked left : Bool) (succeeded : Prop) : Prop
  | idle (hidle : marked = false ∨ ¬ reached ∧ ¬ succeeded) (hdevice : after = before)
      (hleft : left = marked)
  | accepted (hreached : reached) (hmarked : marked = true)
      (hrequests : after.requests = before.requests ++ [(request, true)]) (hleft : left = false)
  | refused (hreached : reached) (hmarked : marked = true)
      (hrequests : after.requests = before.requests ++ [(request, false)]) (hleft : left = true)
      (hfailed : ¬ succeeded)

namespace Offered

variable {reached succeeded : Prop} {request : Request} {before after : Observed Device Request}
  {marked left : Bool}
  (hoffered : Offered reached request before after marked left succeeded)

include hoffered

theorem granted_prefix : before.granted <+: after.granted := by
  cases hoffered with
  | idle _ hdevice _ => exact hdevice ▸ List.prefix_rfl
  | accepted _ _ hrequests _ =>
      rw [Observed.granted_of_accepted hrequests]
      exact List.prefix_append _ _
  | refused _ _ hrequests _ _ =>
      exact (Observed.granted_of_refused hrequests).symm ▸ List.prefix_rfl

/-- The mark is left unless the part was taken. -/
theorem left_iff : left = true ↔ after.granted = before.granted ∧ marked = true := by
  cases hoffered with
  | idle _ hdevice hleft => simp [hdevice, hleft]
  | accepted _ _ hrequests hleft => simp [Observed.granted_of_accepted hrequests, hleft]
  | refused _ hmarked hrequests hleft _ =>
      simp [Observed.granted_of_refused hrequests, hleft, hmarked]

theorem left_of_succeeded (hsucceeded : succeeded) : left = false := by
  cases hoffered with
  | idle hidle _ hleft =>
      rcases hidle with hmarked | ⟨-, hfailed⟩
      · rw [hleft, hmarked]
      · exact absurd hsucceeded hfailed
  | accepted _ _ _ hleft => exact hleft
  | refused _ _ _ _ hfailed => exact absurd hsucceeded hfailed

/-- The device is asked exactly if the tick gets to it with the mark set. -/
theorem requests_cases :
    (after = before ∧ ¬ (reached ∧ marked = true)) ∨
      ((reached ∧ marked = true) ∧
        ∃ accepted, after.requests = before.requests ++ [(request, accepted)]) := by
  cases hoffered with
  | idle hidle hdevice _ =>
      refine .inl ⟨hdevice, ?_⟩
      rintro ⟨hreached, hmarked⟩
      rcases hidle with hunmarked | ⟨hunreached, -⟩
      · rw [hmarked] at hunmarked
        contradiction
      · exact hunreached hreached
  | accepted hreached hmarked hrequests _ => exact .inr ⟨⟨hreached, hmarked⟩, true, hrequests⟩
  | refused hreached hmarked hrequests _ _ => exact .inr ⟨⟨hreached, hmarked⟩, false, hrequests⟩

end Offered

end Offered

/-! ## What is pending -/

section Pending

variable [InputDevice Input] [DisplayDevice Display] [SoundDevice Sound] [FileStore Store]
variable {Part Device Request : Type}

/-- A mark whose part a device takes over, in every tick that can happen. -/
structure HandsOver (host : ObservedHost Input Display Sound Store) (mark : Machine.Mark Part)
    (device : ObservedHost Input Display Sound Store → Observed Device Request) : Prop where
  start : mark.isSet (mark.part host.machine) = false
  noted : ∀ (now : ObservedHost Input Display Sound Store) journal,
    device { now with journal := journal } = device now
  toned : ∀ (now : ObservedHost Input Display Sound Store) sound sounding,
    device { now with sound := sound, sounding := sounding } = device now
  offered : ∀ {past now}, History host past now → ∃ reached request,
    Offered reached request (device now) (device now.runTick.host)
      (mark.isSet (mark.part now.counted.host.machine))
      (mark.isSet (mark.part now.runTick.host.machine)) (now.runTick.result = .ok ())

/-- A part is marked exactly if an instruction has touched it in a tick since whose
start nothing was taken. -/
theorem HandsOver.pending_iff {host : ObservedHost Input Display Sound Store}
    {mark : Machine.Mark Part}
    {device : ObservedHost Input Display Sound Store → Observed Device Request}
    (hands : HandsOver host mark device) {past : List (ObservedHost Input Display Sound Store)}
    {now : ObservedHost Input Display Sound Store} (hnow : History host past now) :
    (∀ earlier ∈ past, (device earlier).granted <+: (device now).granted) ∧
      (mark.isSet (mark.part now.machine) = true ↔
        ∃ earlier ∈ past, (∃ attempt ∈ earlier.attempts, mark.SetBy attempt) ∧
          (device earlier).granted = (device now).granted) := by
  induction hnow with
  | start => simp [hands.start]
  | noted _ journal ih =>
      rw [hands.noted]
      exact ih
  | @silenced past now _ ih =>
      obtain ⟨sound, sounding, hsilence⟩ := now.silence_host
      rw [hsilence, hands.toned]
      exact ih
  | @ticked past now earlier ih =>
      obtain ⟨hgrows, hpending⟩ := ih
      obtain ⟨reached, request, hoffered⟩ := hands.offered earlier
      have htick := hoffered.granted_prefix
      refine ⟨?_, ?_⟩
      · simp only [List.mem_append, List.mem_singleton]
        rintro _ (hpast | rfl)
        · exact (hgrows _ hpast).trans htick
        · exact htick
      rw [hoffered.left_iff, now.isSet_counted mark, hpending]
      constructor
      · rintro ⟨hsame, ⟨first, hpast, hsets, hgranted⟩ | hsets⟩
        · exact ⟨first, List.mem_append_left _ hpast, hsets, hgranted.trans hsame.symm⟩
        · exact ⟨now, List.mem_append_right _ (List.mem_singleton_self now), hsets, hsame.symm⟩
      · simp only [List.mem_append, List.mem_singleton]
        rintro ⟨first, hpast | rfl, hsets, hgranted⟩
        -- what was granted only grows, so that nothing was between the two
        · rw [← hgranted] at htick
          have hsame := (hgrows first hpast).eq_of_length_le htick.length_le
          exact ⟨hgranted.symm.trans hsame, .inl ⟨first, hpast, hsets, hsame⟩⟩
        · exact ⟨hgranted.symm, .inr hsets⟩

/-- The mark is set after the instructions of a tick exactly if one of them, or one of a
tick before, has touched the part since. -/
theorem HandsOver.pending_counted_iff {host : ObservedHost Input Display Sound Store}
    {mark : Machine.Mark Part}
    {device : ObservedHost Input Display Sound Store → Observed Device Request}
    (hands : HandsOver host mark device) {past : List (ObservedHost Input Display Sound Store)}
    {now : ObservedHost Input Display Sound Store} (hnow : History host past now) :
    mark.isSet (mark.part now.counted.host.machine) = true ↔
      ∃ earlier ∈ past ++ [now], (∃ attempt ∈ earlier.attempts, mark.SetBy attempt) ∧
        (device earlier).granted = (device now).granted := by
  rw [now.isSet_counted mark, (hands.pending_iff hnow).2]
  simp only [List.mem_append, List.mem_singleton, or_and_right, exists_or, exists_eq_left,
    and_true]

end Pending

end Host

end Chip8
