import Chip8.Device.Speaker

/-!
# What a speaker is told

A beeper remembers whether the speaker sounds, and contacts it only to change that.  The
speaker may fail at any contacts, and it accepts one frequency at a time.  What the beeper
remembers is whether the last frequency that the speaker accepted is that of the tone: it
changes its mind after the speaker has accepted, never before.  So the frequencies of the
tone and of silence are accepted in turn, and a request that failed is made again the next
time, while the opposite one finds nothing to do.
-/

namespace Chip8.Beeper

/-- What a beeper can be asked for. -/
inductive Request where
  | start
  | stop

namespace Request

def opposite : Request → Request
  | start => stop
  | stop => start

/-- Whether the speaker sounds once the request is granted. -/
def sounds : Request → Bool
  | start => true
  | stop => false

/-- The frequency that the speaker is given. -/
def frequency : Request → Nat
  | start => 2093
  | stop => 0

/-- Whether there is something to do: the frequency that the speaker accepted last is not
that of the tone, for a request to start it, or is, for a request to stop it. -/
def isDue (speaker : Speaker) : Request → Bool
  | start => speaker.tones.getLast? ≠ some 2093
  | stop => speaker.tones.getLast? = some 2093

end Request

/-- A beeper that was not asked for anything, whose speaker fails at the given contacts. -/
def new (fails : Nat → Bool) : Beeper where
  speaker := { fails := fails }

def answer (beeper : Beeper) : Request → Except String Unit × Beeper
  | .start => beeper.start
  | .stop => beeper.stop

/-- The beeper after requests, whether they succeed or fail. -/
def afterAll (beeper : Beeper) (requests : List Request) : Beeper :=
  requests.foldl (fun now request => (now.answer request).2) beeper

/-- The beeper after its speaker failed once more. -/
def refused (beeper : Beeper) : Beeper :=
  { beeper with speaker := { beeper.speaker with contacts := beeper.speaker.contacts + 1 } }

/-- The beeper after its speaker accepted what a request is for. -/
def granted (beeper : Beeper) (request : Request) : Beeper where
  speaker := { beeper.speaker with
    contacts := beeper.speaker.contacts + 1
    tones := beeper.speaker.tones ++ [request.frequency] }
  isBeeping := request.sounds

/-- A request either finds nothing to do, or is refused by the speaker, or is granted. -/
theorem answer_cases (beeper : Beeper) (request : Request) :
    (beeper.isBeeping = request.sounds ∧ beeper.answer request = (.ok (), beeper)) ∨
    (beeper.isBeeping ≠ request.sounds ∧ beeper.speaker.fails beeper.speaker.contacts = true ∧
      beeper.answer request = (.error Speaker.failure, beeper.refused)) ∨
    (beeper.isBeeping ≠ request.sounds ∧ beeper.speaker.fails beeper.speaker.contacts = false ∧
      beeper.answer request = (.ok (), beeper.granted request)) := by
  obtain ⟨speaker, isBeeping⟩ := beeper
  cases hfails : speaker.fails speaker.contacts
  all_goals cases isBeeping <;> cases request <;>
    simp [answer, start, stop, Speaker.play, hfails, Request.sounds, refused, granted,
      Request.frequency, pitch]

/-! ## Frequencies in turn -/

/-- The frequencies 2093, 0, 2093, 0 and so on. -/
def alternating (count : Nat) : List Nat :=
  (List.range count).map fun turn => if turn % 2 = 0 then 2093 else 0

theorem alternating_succ (count : Nat) :
    alternating (count + 1) = alternating count ++ [if count % 2 = 0 then 2093 else 0] := by
  simp [alternating, List.range_succ]

theorem getLast?_alternating (count : Nat) :
    (alternating count).getLast? = some 2093 ↔ count % 2 = 1 := by
  cases count with
  | zero => simp [alternating]
  | succ count =>
      rw [alternating_succ, List.getLast?_concat, Option.some.injEq]
      split
      · omega
      · omega

/-- The beeper knows what its speaker does. -/
structure InStep (fails : Nat → Bool) (beeper : Beeper) : Prop where
  pattern : beeper.speaker.fails = fails
  turns : beeper.speaker.tones = alternating beeper.speaker.tones.length
  known : beeper.isBeeping = true ↔ beeper.speaker.tones.getLast? = some 2093

variable {fails : Nat → Bool} {beeper : Beeper}

theorem inStep_new (fails : Nat → Bool) : InStep fails (new fails) :=
  ⟨rfl, rfl, by simp [new]⟩

theorem InStep.isDue_eq (hbeeper : InStep fails beeper) (request : Request) :
    request.isDue beeper.speaker = decide (beeper.isBeeping ≠ request.sounds) := by
  cases request with
  | start => simp [Request.isDue, Request.sounds, ← hbeeper.known]
  | stop => simp [Request.isDue, Request.sounds, ← hbeeper.known]

theorem InStep.refused (hbeeper : InStep fails beeper) : InStep fails beeper.refused :=
  ⟨hbeeper.pattern, hbeeper.turns, hbeeper.known⟩

/-- A request for the other state than the present one continues the turns. -/
theorem InStep.granted (hbeeper : InStep fails beeper) {request : Request}
    (hother : beeper.isBeeping ≠ request.sounds) : InStep fails (beeper.granted request) := by
  have hlast := hbeeper.known
  rw [hbeeper.turns, getLast?_alternating] at hlast
  have hnext : (if beeper.speaker.tones.length % 2 = 0 then 2093 else 0) = request.frequency := by
    cases request with
    | start =>
        have heven : ¬ beeper.speaker.tones.length % 2 = 1 := fun hodd => hother (hlast.mpr hodd)
        rw [if_pos (by omega)]
        rfl
    | stop =>
        have hodd := hlast.mp (eq_true_of_ne_false hother)
        rw [if_neg (by omega)]
        rfl
  refine ⟨hbeeper.pattern, ?_, ?_⟩
  · show beeper.speaker.tones ++ [request.frequency]
      = alternating (beeper.speaker.tones ++ [request.frequency]).length
    rw [List.length_append, List.length_singleton, alternating_succ, ← hbeeper.turns, hnext]
  · show request.sounds = true ↔ (beeper.speaker.tones ++ [request.frequency]).getLast? = some 2093
    rw [List.getLast?_concat]
    cases request with
    | start => simp [Request.sounds, Request.frequency]
    | stop => simp [Request.sounds, Request.frequency]

theorem InStep.answer (hbeeper : InStep fails beeper) (request : Request) :
    InStep fails (beeper.answer request).2 := by
  rcases beeper.answer_cases request with
    ⟨-, hanswer⟩ | ⟨-, -, hanswer⟩ | ⟨hother, -, hanswer⟩
  · rw [hanswer]
    exact hbeeper
  · rw [hanswer]
    exact hbeeper.refused
  · rw [hanswer]
    exact hbeeper.granted hother

theorem InStep.afterAll (hbeeper : InStep fails beeper) (requests : List Request) :
    InStep fails (beeper.afterAll requests) := by
  induction requests generalizing beeper with
  | nil => exact hbeeper
  | cons request rest ih => exact ih (hbeeper.answer request)

/-! ## Requests -/

/-- What a beeper does about a request, at a speaker that fails at the given contacts. -/
structure Obeys (fails : Nat → Bool) (now : Beeper) (request : Request) : Prop where
  /-- The speaker is contacted once if there is something to do, and otherwise not at all. -/
  contacts : (now.answer request).2.speaker.contacts
    = now.speaker.contacts + (request.isDue now.speaker).toNat
  idle : request.isDue now.speaker = false → now.answer request = (.ok (), now)
  /-- A contact that does not fail gives the speaker one more frequency. -/
  accepted : request.isDue now.speaker = true → fails now.speaker.contacts = false →
    now.answer request = (.ok (), now.granted request)
  error_iff : (∃ reason, (now.answer request).1 = .error reason) ↔
    request.isDue now.speaker = true ∧ fails now.speaker.contacts = true
  /-- After an error nothing has changed but that the speaker was contacted. -/
  unchanged : ∀ reason, (now.answer request).1 = .error reason →
    (now.answer request).2 = now.refused
  /-- After an error the same request contacts the speaker again. -/
  again : ∀ reason, (now.answer request).1 = .error reason →
    ((now.answer request).2.answer request).2.speaker.contacts
      = (now.answer request).2.speaker.contacts + 1
  /-- After an error the opposite request does nothing. -/
  settled : ∀ reason, (now.answer request).1 = .error reason →
    (now.answer request).2.answer request.opposite = (.ok (), (now.answer request).2)

/-- A request for the other state contacts the speaker, whether it fails or not. -/
theorem contacts_of_other {request : Request} (hother : beeper.isBeeping ≠ request.sounds) :
    (beeper.answer request).2.speaker.contacts = beeper.speaker.contacts + 1 := by
  rcases beeper.answer_cases request with ⟨hsame, -⟩ | ⟨-, -, hanswer⟩ | ⟨-, -, hanswer⟩
  · exact absurd hsame hother
  · rw [hanswer]
    rfl
  · rw [hanswer]
    rfl

theorem answer_of_same {request : Request} (hsame : beeper.isBeeping = request.sounds) :
    beeper.answer request = (.ok (), beeper) := by
  rcases beeper.answer_cases request with ⟨-, hanswer⟩ | ⟨hother, -⟩ | ⟨hother, -⟩
  · exact hanswer
  · exact absurd hsame hother
  · exact absurd hsame hother

theorem sounds_opposite {request : Request} (hother : beeper.isBeeping ≠ request.sounds) :
    beeper.isBeeping = request.opposite.sounds := by
  cases request with
  | start => exact eq_false_of_ne_true hother
  | stop => exact eq_true_of_ne_false hother

theorem obeys (hbeeper : InStep fails beeper) (request : Request) :
    Obeys fails beeper request := by
  have hdue := hbeeper.isDue_eq request
  have hpattern := congrFun hbeeper.pattern beeper.speaker.contacts
  rcases beeper.answer_cases request with
    ⟨hsame, hanswer⟩ | ⟨hother, hfails, hanswer⟩ | ⟨hother, hfails, hanswer⟩
  · rw [decide_eq_false (not_not_intro hsame)] at hdue
    exact {
      contacts := by simp [hanswer, hdue]
      idle := fun _ => hanswer
      accepted := by simp [hdue]
      error_iff := by simp [hanswer, hdue]
      unchanged := by simp [hanswer]
      again := by simp [hanswer]
      settled := by simp [hanswer] }
  · rw [decide_eq_true hother] at hdue
    rw [hfails] at hpattern
    exact {
      contacts := by simp [hanswer, hdue, refused]
      idle := by simp [hdue]
      accepted := by simp [← hpattern]
      error_iff := by simp [hanswer, hdue, ← hpattern]
      unchanged := by simp [hanswer]
      again := by
        intro reason _
        rw [hanswer]
        exact contacts_of_other hother
      settled := by
        intro reason _
        rw [hanswer]
        exact answer_of_same (sounds_opposite hother) }
  · rw [decide_eq_true hother] at hdue
    rw [hfails] at hpattern
    exact {
      contacts := by simp [hanswer, hdue, granted]
      idle := by simp [hdue]
      accepted := fun _ _ => hanswer
      error_iff := by simp [hanswer, hdue, ← hpattern]
      unchanged := by simp [hanswer]
      again := by simp [hanswer]
      settled := by simp [hanswer] }

/-- Whatever a new beeper is asked for and whenever its speaker fails, the speaker accepts
the frequencies of the tone and of silence in turn, beginning with the tone.  Every request
contacts the speaker if the frequency that was accepted last is not the one it is for, and
fails if this contact does; then it is as if nothing had been asked. -/
theorem speaker_takes_turns (fails : Nat → Bool) (requests : List Request) :
    ((new fails).afterAll requests).speaker.tones
        = alternating ((new fails).afterAll requests).speaker.tones.length ∧
      ∀ request, Obeys fails ((new fails).afterAll requests) request := by
  have hbeeper := (inStep_new fails).afterAll requests
  exact ⟨hbeeper.turns, obeys hbeeper⟩

/-- The first contact fails. -/
example :
    ((new (· = 0)).afterAll [.start, .stop, .start, .start, .stop, .stop, .start]).speaker.tones
      = [2093, 0, 2093] := by
  decide

end Chip8.Beeper
