import DataSafe.Base.Machine
import DataSafe.Base.Table

/-!
# Site replication tasks

Each write of an object leaves a task for each rule of its bucket.  A worker
lists the tasks that are due, executes them one after the other and writes
each back as done, as failed, or as pending with a later time.

`ListDueSiteReplicationTasks` scans the tasks in the order of their ids, stops
at a limit and sorts what it has by the time of creation.  So a task comes
after the earlier ones for its rule and key if these are in the same list and
none of them stays pending.
-/

namespace DataSafe.Api

open Base

inductive SiteEvent where
  | put
  | delete
deriving DecidableEq

inductive SiteStatus where
  | pending
  | done
  | failed
deriving DecidableEq

/-- `SiteReplicationTask`; a time that is not set is zero. -/
structure SiteTask where
  id : String
  ruleID : String
  event : SiteEvent
  key : String
  status : SiteStatus := .pending
  createdAt : Int
  nextAttempt : Option Int
  attempts : Nat := 0
  error : String := ""
  processedAt : Option Int := none
deriving DecidableEq

/-- The destination of a task: one key of one rule. -/
def SiteTask.target (task : SiteTask) : String × String :=
  (task.ruleID, task.key)

abbrev SiteTasks := Table String SiteTask

def SiteTask.Due (task : SiteTask) (now : Int) : Prop :=
  task.status = .pending ∧ ∀ next ∈ task.nextAttempt, next ≤ now

instance (task : SiteTask) (now : Int) : Decidable (task.Due now) :=
  inferInstanceAs (Decidable (_ ∧ ∀ next ∈ task.nextAttempt, _))

/-- `ListDueSiteReplicationTasks` -/
def listDue (before : String → String → Bool) (tasks : SiteTasks)
    (limit : Nat) (now : Int) : List SiteTask :=
  let due := ((tasks.scan before).map Prod.snd).filter (·.Due now)
  (if 0 < limit then due.take limit else due).insertionSort
    (·.createdAt ≤ ·.createdAt)

/-- How an execution ends, and the time of the next clock reading. -/
inductive SiteOutcome where
  | succeeds (now : Int)
  | fails (error : String) (now : Int)

/-- The record that an execution writes back. -/
def SiteTask.after (task : SiteTask) : SiteOutcome → SiteTask
  | .succeeds now => { task with status := .done, processedAt := some now }
  | .fails error now =>
    let attempts := task.attempts + 1
    if attempts < 5 then
      { task with
        attempts := attempts
        error := error
        status := .pending
        nextAttempt := some (now + attempts * attempts * 1000000000) }
    else
      { task with attempts := attempts, error := error, status := .failed }

/-- The stored tasks, the rest of the worker's list, the task that last took
effect on each destination, and each execution with the tasks stored then. -/
structure SiteState where
  tasks : SiteTasks := Table.empty
  work : List SiteTask := []
  effect : String × String → Option SiteTask := fun _ => none
  executed : List (SiteTasks × SiteTask) := []

inductive SiteAction where
  /-- `enqueueSiteReplication` stores a task. -/
  | enqueue (task : SiteTask)
  /-- `processSiteReplicationOnce` lists the due tasks. -/
  | list (now : Int)
  /-- The worker executes the next task of its list. -/
  | execute (outcome : SiteOutcome)

def siteStep (before : String → String → Bool) (state : SiteState) :
    SiteAction → SiteState
  | .enqueue task => { state with tasks := state.tasks.put task.id task }
  | .list now => { state with work := listDue before state.tasks 20 now }
  | .execute outcome =>
    match state.work with
    | [] => state
    | task :: work =>
      { tasks := state.tasks.put task.id (task.after outcome)
        work := work
        effect := match outcome with
          | .succeeds _ => Function.update state.effect task.target
              (some task)
          | .fails _ _ => state.effect
        executed := (state.tasks, task) :: state.executed }

/-- An older task for the same destination. -/
def Precedes (older task : SiteTask) : Prop :=
  older.target = task.target ∧ older.createdAt < task.createdAt

/-- What may happen: new tasks are pending, have new ids and are younger than
those for the same destination, and the one worker ends its list first. -/
def SiteLegal (state : SiteState) : SiteAction → Prop
  | .enqueue task => task.status = .pending ∧
      state.tasks.get task.id = none ∧
      ∀ entry ∈ state.tasks.entries, entry.2.target = task.target →
        entry.2.createdAt < task.createdAt
  | .list _ => state.work = []
  | .execute _ => True

/-- A list holds the pending tasks that precede those in it, and a task that
stays pending has none behind it in the list that it precedes. -/
def SiteOrderly (before : String → String → Bool) (state : SiteState) :
    SiteAction → Prop
  | .enqueue _ => True
  | .list now =>
    ∀ task ∈ listDue before state.tasks 20 now,
      ∀ entry ∈ state.tasks.entries, entry.2.status = .pending →
        Precedes entry.2 task → entry.2 ∈ listDue before state.tasks 20 now
  | .execute outcome =>
    ∀ task ∈ state.work.head?, (task.after outcome).status = .pending →
      ∀ later ∈ state.work.tail, ¬ Precedes task later

instance (older task : SiteTask) : Decidable (Precedes older task) :=
  inferInstanceAs (Decidable (_ ∧ _))

instance (state : SiteState) :
    (action : SiteAction) → Decidable (SiteLegal state action)
  | .enqueue _ =>
    inferInstanceAs (Decidable (_ ∧ _ ∧ ∀ entry ∈ state.tasks.entries, _))
  | .list _ => inferInstanceAs (Decidable (_ = _))
  | .execute _ => inferInstanceAs (Decidable True)

instance (before : String → String → Bool) (state : SiteState) :
    (action : SiteAction) → Decidable (SiteOrderly before state action)
  | .enqueue _ => inferInstanceAs (Decidable True)
  | .list _ => inferInstanceAs (Decidable (∀ task ∈ _, ∀ entry ∈ _, _))
  | .execute _ =>
    inferInstanceAs (Decidable (∀ task ∈ state.work.head?, _))

/-! ## The invariant -/

/-- What stays the same about a task. -/
def SiteTask.core (task : SiteTask) :
    String × (String × String) × SiteEvent × Int :=
  (task.id, task.target, task.event, task.createdAt)

theorem after_core (task : SiteTask) (outcome : SiteOutcome) :
    (task.after outcome).core = task.core := by
  cases outcome with
  | succeeds now => rfl
  | fails error now =>
    dsimp only [SiteTask.after]
    split <;> rfl

theorem core_eq_iff {left right : SiteTask} :
    left.core = right.core ↔ left.id = right.id ∧
      left.target = right.target ∧ left.event = right.event ∧
      left.createdAt = right.createdAt := by
  simp [SiteTask.core]

structure SiteInvariant (state : SiteState) : Prop where
  ids : ∀ id task, state.tasks.get id = some task → task.id = id
  apart : ∀ id other left right, state.tasks.get id = some left →
    state.tasks.get other = some right → left.target = right.target →
    left.createdAt = right.createdAt → id = other
  stored : ∀ task ∈ state.work, state.tasks.get task.id = some task ∧
    task.status = .pending
  sorted : state.work.Pairwise (·.createdAt ≤ ·.createdAt)
  once : (state.work.map SiteTask.id).Nodup
  complete : ∀ task ∈ state.work, ∀ id older,
    state.tasks.get id = some older → older.status = .pending →
    Precedes older task → older ∈ state.work
  /-- What is done precedes what is pending. -/
  done : ∀ id other finished waiting, state.tasks.get id = some finished →
    state.tasks.get other = some waiting → finished.status = .done →
    waiting.status = .pending → finished.target = waiting.target →
    finished.createdAt < waiting.createdAt
  /-- The last effect is that of the youngest task that is done. -/
  effect : ∀ id task, state.tasks.get id = some task → task.status = .done →
    ∃ last, state.effect task.target = some last ∧
      last.target = task.target ∧ task.createdAt ≤ last.createdAt ∧
      (state.tasks.get last.id).map SiteTask.core = some last.core
  executed : ∀ entry ∈ state.executed, ∀ id older,
    entry.1.get id = some older → Precedes older entry.2 →
    older.status ≠ .pending

variable {tasks : SiteTasks} {id : String} {task : SiteTask}

section

variable {before : String → String → Bool} {state : SiteState}

theorem get_put_cases
    {other : String} {new : SiteTask}
    (found : (tasks.put id new).get other = some task) :
    other = id ∧ task = new ∨ other ≠ id ∧ tasks.get other = some task := by
  rw [Table.get_put] at found
  split at found
  · exact .inl ⟨‹_›, (Option.some.inj found).symm⟩
  · exact .inr ⟨‹_›, found⟩

private theorem mem_listDue
    {limit : Nat} {now : Int}
    (member : task ∈ listDue before tasks limit now) :
    ∃ id, tasks.get id = some task ∧ task.status = .pending := by
  rw [listDue, List.mem_insertionSort] at member
  have due : task ∈ ((tasks.scan before).map Prod.snd).filter
      (·.Due now) := by
    split at member
    · exact List.mem_of_mem_take member
    · exact member
  rcases List.mem_filter.mp due with ⟨scanned, isDue⟩
  rcases List.mem_map.mp scanned with ⟨⟨id, _⟩, entry, rfl⟩
  exact ⟨id, (Table.mem_scan_iff ..).mp entry, (of_decide_eq_true isDue).1⟩

theorem enqueue_invariant
    (invariant : SiteInvariant state)
    (legal : SiteLegal state (.enqueue task)) :
    SiteInvariant (siteStep before state (.enqueue task)) := by
  rcases legal with ⟨pending, fresh, entries⟩
  have younger : ∀ id other, state.tasks.get id = some other →
      other.target = task.target → other.createdAt < task.createdAt := by
    intro id other found
    exact entries (id, other) ((Table.mem_entries_iff ..).mpr found)
  have kept : ∀ id other, state.tasks.get id = some other →
      (state.tasks.put task.id task).get id = some other := by
    intro id other found
    rw [Table.get_put, if_neg]
    · exact found
    · rintro rfl
      rw [fresh] at found
      cases found
  constructor
  · intro id other found
    rcases get_put_cases found with ⟨rfl, rfl⟩ | ⟨-, found⟩
    · rfl
    · exact invariant.ids id other found
  · intro id other left right foundLeft foundRight target created
    rcases get_put_cases foundLeft with ⟨rfl, rfl⟩ | ⟨-, oldLeft⟩ <;>
      rcases get_put_cases foundRight with ⟨rfl, rfl⟩ | ⟨-, oldRight⟩
    · rfl
    · have := younger other right oldRight target.symm
      omega
    · have := younger id left oldLeft target
      omega
    · exact invariant.apart id other left right oldLeft oldRight target
        created
  · intro other member
    rcases invariant.stored other member with ⟨found, waits⟩
    exact ⟨kept other.id other found, waits⟩
  · exact invariant.sorted
  · exact invariant.once
  · intro other member id older found waits precedes
    rcases get_put_cases found with ⟨rfl, rfl⟩ | ⟨-, found⟩
    · have := younger other.id other (invariant.stored other member).1
        precedes.1.symm
      have := precedes.2
      omega
    · exact invariant.complete other member id older found waits precedes
  · intro id other finished waiting foundDone foundPending isDone waits target
    rcases get_put_cases foundDone with ⟨rfl, rfl⟩ | ⟨-, oldDone⟩
    · rw [pending] at isDone
      cases isDone
    · rcases get_put_cases foundPending with ⟨rfl, rfl⟩ | ⟨-, oldPending⟩
      · exact younger id finished oldDone target
      · exact invariant.done id other finished waiting oldDone oldPending
          isDone waits target
  · intro id other found isDone
    rcases get_put_cases found with ⟨rfl, rfl⟩ | ⟨-, found⟩
    · rw [pending] at isDone
      cases isDone
    · rcases invariant.effect id other found isDone with
        ⟨last, effect, target, created, same⟩
      refine ⟨last, effect, target, created, ?_⟩
      rcases Option.map_eq_some_iff.mp same with ⟨record, stored, core⟩
      rw [show (siteStep before state (.enqueue task)).tasks.get last.id =
        some record from kept last.id record stored, Option.map_some, core]
  · exact invariant.executed

theorem list_invariant
    (invariant : SiteInvariant state) {now : Int}
    (orderly : SiteOrderly before state (.list now)) :
    SiteInvariant (siteStep before state (.list now)) where
  ids := invariant.ids
  apart := invariant.apart
  stored task member := by
    rcases mem_listDue member with ⟨id, found, pending⟩
    rw [invariant.ids id task found]
    exact ⟨found, pending⟩
  sorted := by
    exact List.pairwise_insertionSort _ _
  once := by
    have scanned : (((state.tasks.scan before).map Prod.snd).map
        SiteTask.id).Nodup := by
      have keys : ((state.tasks.scan before).map Prod.snd).map SiteTask.id =
          (state.tasks.scan before).map Prod.fst := by
        rw [List.map_map]
        apply List.map_congr_left
        rintro ⟨id, task⟩ member
        exact invariant.ids id task ((Table.mem_scan_iff ..).mp member)
      rw [keys]
      exact ((List.perm_insertionSort _ _).map _).nodup_iff.mpr
        state.tasks.distinct
    apply ((List.perm_insertionSort _ _).map _).nodup_iff.mpr
    split
    · exact scanned.sublist
        (((List.take_sublist _ _).trans List.filter_sublist).map _)
    · exact scanned.sublist (List.filter_sublist.map _)
  complete task member id older found :=
    orderly task member (id, older) ((Table.mem_entries_iff ..).mpr found)
  done := invariant.done
  effect := invariant.effect
  executed := invariant.executed

section Execute

variable (invariant : SiteInvariant state) {task : SiteTask}
  {work : List SiteTask} (listed : state.work = task :: work)
  {outcome : SiteOutcome}

include invariant listed

theorem first_stored :
    state.tasks.get task.id = some task ∧ task.status = .pending :=
  invariant.stored task (listed ▸ List.mem_cons_self)

/-- Nothing pending precedes the first task of the list. -/
theorem first_oldest
    {older : SiteTask} (found : state.tasks.get id = some older)
    (waits : older.status = .pending) : ¬ Precedes older task := by
  intro precedes
  have sorted := listed ▸ invariant.sorted
  have member := invariant.complete task (listed ▸ List.mem_cons_self)
    id older found waits precedes
  rw [listed] at member
  rcases List.mem_cons.mp member with rfl | later
  · exact absurd precedes.2 (Int.lt_irrefl _)
  · have := (List.pairwise_cons.mp sorted).1 older later
    have := precedes.2
    omega

/-- What is done after an execution precedes what is still pending. -/
theorem execute_done
    {other : String} {finished waiting : SiteTask}
    (foundDone : (state.tasks.put task.id (task.after outcome)).get id =
      some finished)
    (foundPending : (state.tasks.put task.id (task.after outcome)).get other =
      some waiting)
    (isDone : finished.status = .done) (waits : waiting.status = .pending)
    (target : finished.target = waiting.target) :
    finished.createdAt < waiting.createdAt := by
  rcases core_eq_iff.mp (after_core task outcome) with
    ⟨-, sameTarget, -, sameCreated⟩
  rcases first_stored invariant listed with ⟨stored, pending⟩
  rcases get_put_cases foundDone with ⟨rfl, rfl⟩ | ⟨-, oldDone⟩ <;>
    rcases get_put_cases foundPending with ⟨rfl, rfl⟩ | ⟨apart, oldPending⟩
  · rw [isDone] at waits
    cases waits
  · have order := first_oldest invariant listed oldPending waits
    have differ : task.createdAt ≠ waiting.createdAt := fun same =>
      apart (invariant.apart _ other task waiting stored oldPending
        (sameTarget ▸ target) same).symm
    have late : ¬ waiting.createdAt < task.createdAt := fun less =>
      order ⟨target.symm.trans sameTarget, less⟩
    omega
  · rw [sameCreated]
    exact invariant.done id _ finished task oldDone stored isDone pending
      (target.trans sameTarget)
  · exact invariant.done id other finished waiting oldDone oldPending isDone
      waits target

variable (before) in
/-- After an execution the last effect is that of the youngest task done. -/
theorem execute_effect
    {other : SiteTask}
    (found : (state.tasks.put task.id (task.after outcome)).get id =
      some other) (isDone : other.status = .done) :
    ∃ last, (siteStep before state (.execute outcome)).effect other.target =
        some last ∧ last.target = other.target ∧
      other.createdAt ≤ last.createdAt ∧
      (state.tasks.get last.id).map SiteTask.core = some last.core := by
  rcases first_stored invariant listed with ⟨stored, pending⟩
  simp only [siteStep, listed]
  rcases get_put_cases found with ⟨rfl, rfl⟩ | ⟨-, old⟩
  · cases outcome with
    | succeeds now =>
      refine ⟨task, Function.update_self .., rfl, Int.le_refl _, ?_⟩
      rw [stored, Option.map_some]
    | fails error now =>
      dsimp only [SiteTask.after] at isDone
      split at isDone <;> cases isDone
  · have before := invariant.effect id other old isDone
    cases outcome with
    | succeeds now =>
      by_cases same : other.target = task.target
      · refine ⟨task, ?_, same.symm, ?_, ?_⟩
        · rw [same]
          exact Function.update_self ..
        · exact Int.le_of_lt (invariant.done id _ other task old stored
            isDone pending same)
        · rw [stored, Option.map_some]
      · dsimp only
        rw [Function.update_of_ne same]
        exact before
    | fails error now => exact before

end Execute

/-- An execution keeps what stays the same about the tasks. -/
theorem map_core_put
    (stored : tasks.get task.id = some task) (outcome : SiteOutcome)
    (id : String) :
    ((tasks.put task.id (task.after outcome)).get id).map SiteTask.core =
      (tasks.get id).map SiteTask.core := by
  rw [Table.get_put]
  split
  · rename_i same
    rw [same, stored, Option.map_some, Option.map_some, after_core]
  · rfl

theorem execute_invariant
    (invariant : SiteInvariant state) {outcome : SiteOutcome}
    (orderly : SiteOrderly before state (.execute outcome)) :
    SiteInvariant (siteStep before state (.execute outcome)) := by
  cases listed : state.work with
  | nil => simpa only [siteStep, listed] using invariant
  | cons task work =>
    rcases core_eq_iff.mp (after_core task outcome) with
      ⟨sameID, sameTarget, -, sameCreated⟩
    have stays := orderly task (by rw [listed]; rfl)
    rw [listed] at stays
    have first := (first_stored invariant listed).1
    have sorted := listed ▸ invariant.sorted
    have once := listed ▸ invariant.once
    rw [List.map_cons, List.nodup_cons] at once
    simp only [siteStep, listed]
    constructor
    · intro id other found
      rcases get_put_cases found with ⟨rfl, rfl⟩ | ⟨-, old⟩
      · exact sameID
      · exact invariant.ids id other old
    · intro id other left right foundLeft foundRight target created
      rcases get_put_cases foundLeft with ⟨rfl, rfl⟩ | ⟨-, oldLeft⟩ <;>
        rcases get_put_cases foundRight with ⟨rfl, rfl⟩ | ⟨-, oldRight⟩
      · rfl
      · exact invariant.apart _ other task right first oldRight
          (sameTarget ▸ target) (sameCreated ▸ created)
      · exact invariant.apart id _ left task oldLeft first
          (target.trans sameTarget) (created.trans sameCreated)
      · exact invariant.apart id other left right oldLeft oldRight target
          created
    · intro other member
      have apart : other.id ≠ task.id := fun same =>
        once.1 (same ▸ List.mem_map_of_mem member)
      rw [Table.get_put, if_neg apart]
      exact invariant.stored other
        (listed ▸ List.mem_cons_of_mem task member)
    · exact (List.pairwise_cons.mp sorted).2
    · exact once.2
    · intro other member id older found waits precedes
      rcases get_put_cases found with ⟨rfl, rfl⟩ | ⟨apart, old⟩
      · exact absurd ⟨sameTarget.symm.trans precedes.1,
          sameCreated ▸ precedes.2⟩ (stays waits other member)
      · have among := invariant.complete other
          (listed ▸ List.mem_cons_of_mem task member) id older old waits
          precedes
        rw [listed] at among
        rcases List.mem_cons.mp among with rfl | later
        · exact absurd (invariant.ids id older old).symm apart
        · exact later
    · intro id other finished waiting
      exact execute_done invariant listed
    · intro id other found isDone
      have effect := execute_effect before invariant listed found isDone
      simp only [siteStep, listed] at effect
      simp only [map_core_put first]
      exact effect
    · intro entry member
      rcases List.mem_cons.mp member with rfl | earlier
      · intro id older found precedes waits
        exact first_oldest invariant listed found waits precedes
      · exact invariant.executed entry earlier

end

/--
If the worker's lists are complete and no task stays pending before a later
one for its destination, no task is executed while an older one for its
destination is pending, and when all tasks are done the last effect on each
destination is that of its youngest task.
-/
theorem site_replication_ordered
    (before : String → String → Bool) (actions : List SiteAction)
    (guarded : Guarded (siteStep before) (fun state action => SiteLegal state
      action ∧ SiteOrderly before state action) {} actions) :
    let state := runAll (siteStep before) {} actions
    (∀ entry ∈ state.executed, ∀ id older, entry.1.get id = some older →
      Precedes older entry.2 → older.status ≠ .pending) ∧
    ((∀ id task, state.tasks.get id = some task → task.status = .done) →
      ∀ id task, state.tasks.get id = some task →
        (∀ other later, state.tasks.get other = some later →
          later.target = task.target → later.createdAt ≤ task.createdAt) →
        ∃ last, state.effect task.target = some last ∧
          last.core = task.core) := by
  intro state
  have invariant : SiteInvariant state := by
    apply guarded.invariant
    · constructor <;> simp [Table.get_empty]
    · rintro state action held ⟨legal, orderly⟩
      cases action with
      | enqueue task => exact enqueue_invariant held legal
      | list now => exact list_invariant held orderly
      | execute outcome => exact execute_invariant held orderly
  refine ⟨invariant.executed, fun allDone id task found youngest => ?_⟩
  rcases invariant.effect id task found (allDone id task found) with
    ⟨last, effect, target, created, same⟩
  rcases Option.map_eq_some_iff.mp same with ⟨record, stored, core⟩
  have fields := core_eq_iff.mp core
  have bound := youngest last.id record stored (fields.2.1.trans target)
  have sameID := invariant.apart last.id id record task stored found
    (fields.2.1.trans target) (by omega)
  rw [sameID, found, Option.some.injEq] at stored
  exact ⟨last, effect, by rw [← core, stored]⟩

def siteTask (id : String) (event : SiteEvent) (createdAt : Int) : SiteTask :=
  { id, ruleID := "r", event, key := "k", createdAt,
    nextAttempt := some createdAt }

/-- A put fails, the delete behind it succeeds at once, and the put is tried
again later: the destination keeps the object. -/
theorem put_after_delete :
    let first := siteTask "a" .put 1
    let second := siteTask "b" .delete 2
    let state := runAll (siteStep (fun left right => left ≤ right)) {}
      [.enqueue first, .enqueue second, .list 2, .execute (.fails "" 2),
        .execute (.succeeds 2), .list 1000000002, .execute
          (.succeeds 1000000002)]
    (∃ entry ∈ state.executed, entry.2 = second ∧
      (entry.1.get "a").map SiteTask.status = some .pending) ∧
      (state.tasks.get "a").map SiteTask.status = some .done ∧
      (state.tasks.get "b").map SiteTask.status = some .done ∧
      (state.effect ("r", "k")).map SiteTask.event = some .put := by
  decide

/-- A put and a delete that both succeed. -/
theorem delete_after_put :
    let actions : List SiteAction :=
      [.enqueue (siteTask "a" .put 1), .enqueue (siteTask "b" .delete 2),
        .list 2, .execute (.succeeds 2), .execute (.succeeds 2)]
    let state := runAll (siteStep (fun left right => left ≤ right)) {} actions
    (∀ entry ∈ state.executed, ∀ id older, entry.1.get id = some older →
      Precedes older entry.2 → older.status ≠ .pending) ∧
    ((∀ id task, state.tasks.get id = some task → task.status = .done) →
      ∀ id task, state.tasks.get id = some task →
        (∀ other later, state.tasks.get other = some later →
          later.target = task.target → later.createdAt ≤ task.createdAt) →
        ∃ last, state.effect task.target = some last ∧
          last.core = task.core) :=
  site_replication_ordered _ _ (by decide)

end DataSafe.Api
