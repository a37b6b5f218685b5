import DataSafe.Base.Machine
import Mathlib.Order.Basic

/-!
# Guessing the password of a share link

`resolveActivePublicShare` reads a link, `sharePasswordOK` compares a password
with its hash unless the copy of the link counts five failures of which the
last is less than five minutes old, and `TouchSharePasswordFailure` then
writes the count of the copy plus one back.

Requests may be at any point between these calls.  A request that reads the
link while another one is between its own read and write works with a count
that is about to change.  If no request does so, the count of the link is the
length of the last streak of failures, which bounds the comparisons.
-/

namespace DataSafe.Api

open Base

/-- The part of `SharedLinkRecord` that counts failures; times are in
nanoseconds. -/
structure LinkFailures where
  count : Nat := 0
  failureAt : Option Int := none
deriving DecidableEq

/-- Five minutes. -/
def lockPeriod : Int := 5 * 60 * 1000000000

inductive Guess where
  | absent
  | wrong
  | correct
deriving DecidableEq

/-- Where a request stands: it has read the link, or it is about to write. -/
inductive GuessStage where
  | checking (copy : LinkFailures) (guess : Guess)
  | writing (failures : LinkFailures)
deriving DecidableEq

/-- The stored link, the time, the requests under way, and the comparisons
with the hash so far, the last one first. -/
structure GuessState where
  link : LinkFailures := {}
  clock : Int := 0
  requests : List GuessStage := []
  compared : List (Int × Guess) := []
deriving DecidableEq

inductive GuessAction where
  | tick (time : Nat)
  | read (guess : Guess)
  | check (index : Nat)
  | write (index : Nat)
deriving DecidableEq

def LinkFailures.Recent (link : LinkFailures) (now : Int) : Prop :=
  ∃ time ∈ link.failureAt, now - time < lockPeriod

instance (link : LinkFailures) (now : Int) : Decidable (link.Recent now) :=
  inferInstanceAs (Decidable (∃ time ∈ link.failureAt, _))

/-- The count and time that a failure writes. -/
def LinkFailures.fail (link : LinkFailures) (now : Int) : LinkFailures :=
  ⟨if link.Recent now then link.count + 1 else 1, some now⟩

/-- `sharePasswordOK` up to its write. -/
def sharePasswordOK (state : GuessState) (index : Nat)
    (copy : LinkFailures) (guess : Guess) : GuessState :=
  let rest := state.requests.eraseIdx index
  let compared := (state.clock, guess) :: state.compared
  if 5 ≤ copy.count ∧ copy.Recent state.clock then
    { state with requests := rest }
  else match guess with
    | .absent => { state with requests := rest }
    | .wrong =>
      { state with
        requests :=
          state.requests.set index (.writing (copy.fail state.clock))
        compared := compared }
    | .correct =>
      if 0 < copy.count then
        { state with
          requests := state.requests.set index (.writing {})
          compared := compared }
      else { state with requests := rest, compared := compared }

def guessStep (state : GuessState) : GuessAction → GuessState
  | .tick time => { state with clock := state.clock + time }
  | .read guess =>
    { state with
      requests := state.requests ++ [.checking state.link guess] }
  | .check index =>
    match state.requests[index]? with
    | some (.checking copy guess) => sharePasswordOK state index copy guess
    | _ => state
  | .write index =>
    match state.requests[index]? with
    | some (.writing failures) =>
      { state with
        link := failures
        requests := state.requests.eraseIdx index }
    | _ => state

/-- The times of the wrong passwords that were compared since the last correct
one. -/
def GuessState.wrongs (state : GuessState) : List Int :=
  (state.compared.takeWhile (·.2 = .wrong)).map (·.1)

/-- A link is read only while no other request is under way. -/
def OneByOne (state : GuessState) : GuessAction → Prop
  | .read _ => state.requests = []
  | _ => True

instance (state : GuessState) :
    (action : GuessAction) → Decidable (OneByOne state action)
  | .read _ => inferInstanceAs (Decidable (_ = _))
  | .tick _ | .check _ | .write _ => inferInstanceAs (Decidable True)

/-! ## Streaks of failures -/

/-- Times in a half-open period. -/
def countIn (start : Int) (times : List Int) : Nat :=
  times.countP fun time => start ≤ time ∧ time < start + lockPeriod

/-- Two times with at least five steps between them are a period apart. -/
def Spaced (times : List Int) : Prop :=
  ∀ i j later earlier, i + 5 ≤ j → times[i]? = some later →
    times[j]? = some earlier → earlier + lockPeriod ≤ later

theorem countIn_le_of_spaced
    {times : List Int} (spaced : Spaced times) (start : Int) :
    countIn start times ≤ 5 := by
  induction times with
  | nil => simp [countIn]
  | cons first rest induction =>
    by_cases inside : start ≤ first ∧ first < start + lockPeriod
    · -- All that stands five places behind the first is too early.
      have none : countIn start ((first :: rest).drop 5) = 0 := by
        rw [countIn, List.countP_eq_zero]
        intro time member
        rcases List.mem_iff_getElem?.mp member with ⟨place, found⟩
        rw [List.getElem?_drop] at found
        have := spaced 0 (5 + place) first time (by omega) rfl found
        simp
        omega
      have few : countIn start ((first :: rest).take 5) ≤ 5 :=
        Nat.le_trans List.countP_le_length (List.length_take_le 5 _)
      rw [← List.take_append_drop 5 (first :: rest), countIn,
        List.countP_append]
      exact Nat.add_le_add few (Nat.le_of_eq none)
    · have shorter :
          countIn start (first :: rest) = countIn start rest := by
        rw [countIn, List.countP_cons_of_neg (by simpa using inside)]
        rfl
      rw [shorter]
      exact induction fun i j later earlier apart first second =>
        spaced (i + 1) (j + 1) later earlier (by omega) first second

/-- The count of a link covers the failures since the last gap of a period. -/
structure Fits (link : LinkFailures) (times : List Int) : Prop where
  before : ∀ time ∈ times, ∃ last ∈ link.failureAt, time ≤ last
  gap : ∀ last ∈ link.failureAt, ∀ j time, link.count ≤ j →
    times[j]? = some time → time + lockPeriod ≤ last

/-- One more failure on a link that is not locked. -/
private theorem Fits.fail
    {link : LinkFailures} {times : List Int} {now : Int}
    (fits : Fits link times) (spaced : Spaced times)
    (past : ∀ last ∈ link.failureAt, last ≤ now)
    (free : ¬ (5 ≤ link.count ∧ link.Recent now)) :
    Fits (link.fail now) (now :: times) ∧ Spaced (now :: times) := by
  -- What stands far enough behind is a period before now.
  have far : ∀ j time, (link.Recent now → link.count ≤ j) →
      times[j]? = some time → time + lockPeriod ≤ now := by
    intro j time behind found
    rcases fits.before time (List.mem_of_getElem? found) with
      ⟨last, stored, le⟩
    by_cases recent : link.Recent now
    · exact Int.le_trans (fits.gap last stored j time (behind recent) found)
        (past last stored)
    · have : ¬ now - last < lockPeriod := fun small =>
        recent ⟨last, stored, small⟩
      omega
  refine ⟨⟨?_, ?_⟩, ?_⟩
  · intro time member
    refine ⟨now, rfl, ?_⟩
    rcases List.mem_cons.mp member with rfl | older
    · exact Int.le_refl _
    · rcases fits.before time older with ⟨last, stored, le⟩
      exact Int.le_trans le (past last stored)
  · rintro _ ⟨⟩ j time counted found
    rw [LinkFailures.fail] at counted
    cases j with
    | zero =>
      dsimp only at counted
      split_ifs at counted <;> omega
    | succ j =>
      apply far j time _ found
      intro recent
      dsimp only at counted
      rw [if_pos recent] at counted
      omega
  · intro i j later earlier apart first second
    cases j with
    | zero => omega
    | succ j =>
      cases i with
      | zero =>
        rw [← Option.some.inj first]
        apply far j earlier _ second
        intro recent
        by_contra many
        exact free ⟨by omega, recent⟩
      | succ i => exact spaced i j later earlier (by omega) first second

/-! ## Histories -/

/-- At most one request is under way; it has a true copy of the link, or it is
about to write a count that fits. -/
def InTurn (state : GuessState) : Prop :=
  match state.requests with
  | [] => Fits state.link state.wrongs
  | [.checking copy _] => copy = state.link ∧ Fits state.link state.wrongs
  | [.writing failures] => Fits failures state.wrongs ∧
      ∀ last ∈ failures.failureAt, last ≤ state.clock
  | _ => False

structure Bounded (state : GuessState) : Prop where
  inTurn : InTurn state
  spaced : Spaced state.wrongs
  past : ∀ last ∈ state.link.failureAt, last ≤ state.clock

theorem spaced_nil : Spaced [] := by
  intro i j later earlier _ first
  simp at first

theorem fits_nil (link : LinkFailures) : Fits link [] :=
  ⟨by simp, by simp⟩

variable {state : GuessState}

/-- The check of the one request under way. -/
theorem sharePasswordOK_bounded
    {guess : Guess} (bounded : Bounded state)
    (only : state.requests = [.checking state.link guess])
    (fits : Fits state.link state.wrongs) :
    Bounded (sharePasswordOK state 0 state.link guess) := by
  rcases bounded with ⟨-, spaced, past⟩
  unfold sharePasswordOK
  rw [only]
  by_cases locked : 5 ≤ state.link.count ∧ state.link.Recent state.clock
  · rw [if_pos locked]
    exact ⟨fits, spaced, past⟩
  · rw [if_neg locked]
    cases guess with
    | absent => exact ⟨fits, spaced, past⟩
    | wrong =>
      have next := fits.fail spaced past locked
      refine ⟨⟨?_, ?_⟩, ?_, past⟩
      · exact next.1
      · rintro _ ⟨⟩
        exact Int.le_refl _
      · exact next.2
    | correct =>
      split_ifs
      · exact ⟨⟨fits_nil _, by simp⟩, spaced_nil, past⟩
      · exact ⟨fits_nil _, spaced_nil, past⟩

theorem guessStep_bounded
    (bounded : Bounded state) {action : GuessAction}
    (turn : OneByOne state action) : Bounded (guessStep state action) := by
  have inTurn := bounded.inTurn
  cases action with
  | tick time =>
    refine ⟨?_, bounded.spaced, fun last stored => ?_⟩
    · simp only [InTurn, guessStep] at inTurn ⊢
      split at inTurn
      · exact inTurn
      · exact inTurn
      · refine ⟨inTurn.1, fun last stored => ?_⟩
        have := inTurn.2 last stored
        omega
      · exact inTurn
    · have := bounded.past last stored
      simp only [guessStep]
      omega
  | read guess =>
    change state.requests = [] at turn
    rw [InTurn, turn] at inTurn
    refine ⟨?_, bounded.spaced, bounded.past⟩
    simp only [InTurn, guessStep, turn, List.nil_append, true_and]
    exact inTurn
  | check index =>
    simp only [guessStep]
    split
    · rename_i copy guess found
      rw [InTurn] at inTurn
      split at inTurn
      · rename_i none
        simp [none] at found
      · rename_i only
        rcases index with _ | index
        · simp only [only] at found
          rcases found with ⟨rfl, rfl⟩
          rcases inTurn with ⟨rfl, fits⟩
          exact sharePasswordOK_bounded bounded only fits
        · simp [only] at found
      · rename_i only
        rcases index with _ | index <;> simp [only] at found
      · exact inTurn.elim
    · exact bounded
  | write index =>
    simp only [guessStep]
    split
    · rename_i failures found
      rw [InTurn] at inTurn
      split at inTurn
      · rename_i none
        simp [none] at found
      · rename_i only
        rcases index with _ | index <;> simp [only] at found
      · rename_i only
        rcases index with _ | index
        · simp only [only, List.getElem?_cons_zero, Option.some.injEq,
            GuessStage.writing.injEq] at found
          subst found
          refine ⟨?_, bounded.spaced, inTurn.2⟩
          simp only [only]
          exact inTurn.1
        · simp [only] at found
      · exact inTurn.elim
    · exact bounded

/-- While the stored link is locked, the request under way is refused. -/
theorem compared_of_locked
    (bounded : Bounded state) (action : GuessAction)
    (locked : 5 ≤ state.link.count ∧ state.link.Recent state.clock) :
    (guessStep state action).compared = state.compared := by
  have inTurn := bounded.inTurn
  cases action with
  | tick time => rfl
  | read guess => rfl
  | check index =>
    simp only [guessStep]
    split
    · rename_i copy guess found
      have same : copy = state.link := by
        rw [InTurn] at inTurn
        split at inTurn
        · rename_i none
          simp [none] at found
        · rename_i only
          rcases index with _ | index <;> simp [only] at found
          rw [← found.1, inTurn.1]
        · rename_i only
          rcases index with _ | index <;> simp [only] at found
        · exact inTurn.elim
      unfold sharePasswordOK
      rw [same, if_pos locked]
    · rfl
  | write index =>
    simp only [guessStep]
    split <;> rfl

/--
If a link is read only while no other request is under way, at most five wrong
passwords are compared in any period of five minutes without a correct one in
between, and none as long as the stored link is locked.
-/
theorem guesses_bounded
    (actions : List GuessAction)
    (guarded : Guarded guessStep OneByOne {} actions) :
    (∀ start, countIn start (runAll guessStep {} actions).wrongs ≤ 5) ∧
    ∀ front action, front ++ [action] <+: actions →
      let state := runAll guessStep {} front
      5 ≤ state.link.count ∧ state.link.Recent state.clock →
        (guessStep state action).compared = state.compared := by
  have bounded : ∀ front, front <+: actions →
      Bounded (runAll guessStep {} front) := by
    intro front earlier
    exact (guarded.mono earlier).invariant ⟨fits_nil _, spaced_nil, by simp⟩
      fun state action held turn => guessStep_bounded held turn
  constructor
  · intro start
    exact countIn_le_of_spaced (bounded actions (List.prefix_refl _)).spaced
      start
  · intro front action made state locked
    exact compared_of_locked
      (bounded front ((List.prefix_append _ _).trans made)) action locked

/-- Six requests read the link before any of them checks its password. -/
theorem six_guesses_at_once :
    countIn 0 (runAll guessStep {} (List.replicate 6 (.read .wrong) ++
        (List.range 6).map .check)).wrongs = 6 := by
  decide

/-- Requests one after the other: the sixth wrong password is refused. -/
theorem sixth_guess_refused :
    let actions := (List.replicate 6
      [GuessAction.read .wrong, .check 0, .write 0]).flatten
    (∀ start, countIn start (runAll guessStep {} actions).wrongs ≤ 5) ∧
    ∀ front action, front ++ [action] <+: actions →
      let state := runAll guessStep {} front
      5 ≤ state.link.count ∧ state.link.Recent state.clock →
        (guessStep state action).compared = state.compared :=
  guesses_bounded _ (by decide)

end DataSafe.Api
