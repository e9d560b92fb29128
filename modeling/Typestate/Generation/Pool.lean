/-! # A pool of workers

Tasks are handed to a pool in a fixed order. A worker takes up a task and ends it some time later;
which task is taken up or ended next is for the pool to choose. The result of a task is kept with
the task, and the results are read in the order of the tasks, each as soon as it is there.

* `Pool.Slot`: a task in the pool: waiting, taken up, or done with its result.
* `Pool.step`: a worker takes up or ends a task; what is not possible does not happen.
* `Schedule`: what the workers do, in order.
* `Pool.collect`: the results in the order of the tasks, and the first failure among them if there
  is one.
* `Pool.collect_kept`, `Pool.run_eq_mapM`: whatever the workers do, this is what carrying out the
  tasks one after another and stopping at the first failure gives.
* `Pool.Completes`: every task is taken up and ended; then a result is kept with each of them
  (`Pool.map_kept?_work`). So it is if the tasks are carried out in order
  (`Pool.completes_inOrder`). -/

namespace Typestate
namespace Pool

variable {α β ε : Type}

/-- A task in the pool. -/
inductive Slot (α β : Type) where
  | waiting (input : α)
  | running (input : α)
  | done (input : α) (result : β)

/-- Something that a worker does with the task of a number. -/
inductive Step where
  | start (task : Nat)
  | finish (task : Nat)
deriving DecidableEq

namespace Slot

/-- The task after a worker took it up. -/
def started : Slot α β → Slot α β
  | waiting x => running x
  | s => s

/-- The task after its worker ended it. -/
def finished (task : α → β) : Slot α β → Slot α β
  | running x => done x (task x)
  | s => s

/-- A worker is busy with the task. -/
def isRunning : Slot α β → Bool
  | running _ => true
  | _ => false

/-- The result kept with the task. -/
def kept? : Slot α β → Option β
  | done _ b => some b
  | _ => none

/-- The result that is read: the one kept, or the one that is waited for. -/
def await (task : α → β) : Slot α β → β
  | waiting x => task x
  | running x => task x
  | done _ b => b

end Slot

/-- The pool after a step; no task is taken up while all workers are busy. -/
def step (workers : Int) (task : α → β) (slots : List (Slot α β)) : Step → List (Slot α β)
  | .start i =>
    if (slots.countP Slot.isRunning : Int) < workers then slots.modify i Slot.started else slots
  | .finish i => slots.modify i (Slot.finished task)

/-- The pool after some steps, starting with all tasks waiting. -/
def work (workers : Int) (task : α → β) (inputs : List α) (steps : List Step) : List (Slot α β) :=
  steps.foldl (step workers task) (inputs.map .waiting)

/-- The results in the order of the tasks, or the first failure. -/
def collect : List (Except ε β) → Except ε (List β)
  | [] => .ok []
  | r :: rest => do
    let b ← r
    let others ← collect rest
    .ok (b :: others)

end Pool

/-- For each number of tasks, what the workers do, in order. -/
abbrev Schedule := Nat → List Pool.Step

/-- One task is taken up and then ended. -/
def Pool.turn (task : Nat) : List Pool.Step := [.start task, .finish task]

/-- Every task is ended before the next one is taken up. -/
def Schedule.inOrder : Schedule := fun n => (List.range n).flatMap Pool.turn

namespace Pool

variable {α β ε : Type}

/-- The results of a pool that works by the schedule. -/
def run (schedule : Schedule) (workers : Int) (task : α → Except ε β) (inputs : List α) :
    Except ε (List β) :=
  collect ((work workers task inputs (schedule inputs.length)).map (Slot.await task))

theorem await_started (task : α → β) (s : Slot α β) : s.started.await task = s.await task := by
  cases s <;> rfl

theorem await_finished (task : α → β) (s : Slot α β) :
    (s.finished task).await task = s.await task := by
  cases s <;> rfl

theorem map_await_modify (task : α → β) {f : Slot α β → Slot α β}
    (hf : ∀ s, (f s).await task = s.await task) (slots : List (Slot α β)) (i : Nat) :
    (slots.modify i f).map (Slot.await task) = slots.map (Slot.await task) := by
  refine List.ext_getElem (by simp) fun j h₁ h₂ => ?_
  simp only [List.getElem_map, List.getElem_modify]
  split
  · exact hf _
  · rfl

/-- **A step changes nothing about what is read.** -/
theorem map_await_step (workers : Int) (task : α → β) (slots : List (Slot α β)) (a : Step) :
    (step workers task slots a).map (Slot.await task) = slots.map (Slot.await task) := by
  cases a with
  | start i =>
    by_cases h : (slots.countP Slot.isRunning : Int) < workers
    · simp only [step, if_pos h]
      exact map_await_modify task (await_started task) slots i
    · simp only [step, if_neg h]
  | finish i => exact map_await_modify task (await_finished task) slots i

/-- **What is read is the result of each task, whatever was done before.** -/
theorem map_await_work (workers : Int) (task : α → β) (inputs : List α) (steps : List Step) :
    (work workers task inputs steps).map (Slot.await task) = inputs.map task := by
  have h : ∀ slots : List (Slot α β),
      (steps.foldl (step workers task) slots).map (Slot.await task) =
        slots.map (Slot.await task) := by
    induction steps with
    | nil => exact fun _ => rfl
    | cons a rest ih => exact fun slots => (ih _).trans (map_await_step workers task slots a)
  rw [work, h, List.map_map]
  rfl

theorem collect_map (task : α → Except ε β) (inputs : List α) :
    collect (inputs.map task) = inputs.mapM task := by
  induction inputs with
  | nil => rfl
  | cons x rest ih =>
    simp only [List.map_cons, collect, List.mapM_cons, ih]
    rfl

theorem await_of_kept? {task : α → β} {s : Slot α β} {b : β} (h : s.kept? = some b) :
    s.await task = b := by
  cases s with
  | done _ b' => exact Option.some.inj h
  | waiting => cases h
  | running => cases h

/-- **Once all tasks are done, the kept results are read as those of the tasks in their order.** -/
theorem collect_kept {workers : Int} {task : α → Except ε β} {inputs : List α} {steps : List Step}
    {kept : List (Except ε β)}
    (h : (work workers task inputs steps).map Slot.kept? = kept.map some) :
    collect kept = inputs.mapM task := by
  have hkept : kept = (work workers task inputs steps).map (Slot.await task) := by
    refine List.ext_getElem? fun i => ?_
    have hi := congrArg (fun l : List (Option (Except ε β)) => l[i]?) h
    simp only [List.getElem?_map] at hi ⊢
    cases hslot : (work workers task inputs steps)[i]? with
    | none => simpa [hslot] using hi.symm
    | some slot =>
      rw [hslot] at hi
      obtain ⟨b, hb, hsome⟩ := Option.map_eq_some_iff.mp hi.symm
      rw [hb, Option.map_some, await_of_kept? hsome.symm]
  rw [hkept, map_await_work, collect_map]

/-- **The schedule does not matter.** -/
theorem run_eq_mapM (schedule : Schedule) (workers : Int) (task : α → Except ε β)
    (inputs : List α) : run schedule workers task inputs = inputs.mapM task := by
  rw [run, map_await_work, collect_map]

/-! ### Complete schedules -/

/-- How far a task has come. -/
def Slot.stage : Slot α β → Nat
  | waiting _ => 0
  | running _ => 1
  | done _ _ => 2

/-- Every task is taken up while a worker is free, and ended some time after that. -/
def Completes (workers : Int) (task : α → β) (inputs : List α) (steps : List Step) : Prop :=
  ∀ i < inputs.length, ∃ before between after,
    steps = before ++ .start i :: (between ++ .finish i :: after) ∧
      ((work workers task inputs before).countP Slot.isRunning : Int) < workers

theorem stage_le_started (s : Slot α β) : s.stage ≤ s.started.stage := by
  cases s <;> simp [Slot.started, Slot.stage]

theorem stage_le_finished (task : α → β) (s : Slot α β) : s.stage ≤ (s.finished task).stage := by
  cases s <;> simp [Slot.finished, Slot.stage]

theorem one_le_stage_started (s : Slot α β) : 1 ≤ s.started.stage := by
  cases s <;> simp [Slot.started, Slot.stage]

theorem stage_finished {task : α → β} {s : Slot α β} (h : 1 ≤ s.stage) :
    (s.finished task).stage = 2 := by
  cases s with
  | waiting => simp [Slot.stage] at h
  | running => rfl
  | done => rfl

theorem kept?_of_stage {task : α → β} {s : Slot α β} (h : 2 ≤ s.stage) :
    s.kept? = some (s.await task) := by
  cases s with
  | waiting => simp [Slot.stage] at h
  | running => simp [Slot.stage] at h
  | done => rfl

/-- A task in its place, and how far it has come at least. -/
def Reached (slots : List (Slot α β)) (i stage : Nat) : Prop :=
  ∃ s, slots[i]? = some s ∧ stage ≤ s.stage

namespace Reached

variable {workers : Int} {task : α → β} {slots : List (Slot α β)} {i n : Nat}

theorem modify (h : Reached slots i n) {f : Slot α β → Slot α β} (hf : ∀ s, s.stage ≤ (f s).stage)
    (j : Nat) : Reached (slots.modify j f) i n := by
  obtain ⟨s, hs, hn⟩ := h
  by_cases hj : j = i
  · exact ⟨f s, by simp [hs, hj], Nat.le_trans hn (hf s)⟩
  · exact ⟨s, by simp [hs, hj], hn⟩

/-- **No task goes back.** -/
theorem step (h : Reached slots i n) (a : Step) : Reached (step workers task slots a) i n := by
  cases a with
  | start j =>
    rw [Pool.step]
    split
    · exact h.modify stage_le_started j
    · exact h
  | finish j => exact h.modify (stage_le_finished task) j

theorem foldl (h : Reached slots i n) (steps : List Step) :
    Reached (steps.foldl (Pool.step workers task) slots) i n := by
  induction steps generalizing slots with
  | nil => exact h
  | cons a rest ih => exact ih (h.step a)

/-- A free worker takes up the task. -/
theorem start (h : Reached slots i n) (hfree : (slots.countP Slot.isRunning : Int) < workers) :
    Reached (Pool.step workers task slots (.start i)) i 1 := by
  obtain ⟨s, hs, -⟩ := h
  exact ⟨s.started, by simp [Pool.step, hfree, hs], one_le_stage_started s⟩

/-- A task that was taken up is ended. -/
theorem finish (h : Reached slots i 1) :
    Reached (Pool.step workers task slots (.finish i)) i 2 := by
  obtain ⟨s, hs, hstage⟩ := h
  exact ⟨s.finished task, by simp [Pool.step, hs], Nat.le_of_eq (stage_finished hstage).symm⟩

end Reached

variable {workers : Int} {task : α → β} {inputs : List α} {steps : List Step}

/-- **If every task is taken up and ended, then its result is kept with it.** -/
theorem map_kept?_work (h : Completes workers task inputs steps) :
    (work workers task inputs steps).map Slot.kept? = (inputs.map task).map some := by
  have hlength : (work workers task inputs steps).length = inputs.length := by
    simpa using congrArg List.length (map_await_work workers task inputs steps)
  rw [← map_await_work workers task inputs steps, List.map_map]
  refine List.map_congr_left fun s hs => ?_
  obtain ⟨i, hi, rfl⟩ := List.mem_iff_getElem.mp hs
  have hinput : i < inputs.length := hlength ▸ hi
  obtain ⟨before, between, after, rfl, hfree⟩ := h i hinput
  have hwaiting : Reached (inputs.map Slot.waiting : List (Slot α β)) i 0 :=
    ⟨.waiting inputs[i], by simp [hinput], Nat.zero_le _⟩
  have hdone : Reached (work workers task inputs
      (before ++ .start i :: (between ++ .finish i :: after))) i 2 := by
    rw [work, List.foldl_append, List.foldl_cons, List.foldl_append, List.foldl_cons]
    exact ((((hwaiting.foldl before).start hfree).foldl between).finish).foldl after
  obtain ⟨s, hs, hstage⟩ := hdone
  rw [List.getElem?_eq_getElem hi, Option.some.injEq] at hs
  exact kept?_of_stage (hs ▸ hstage)

theorem isRunning_finished (task : α → β) (s : Slot α β) : (s.finished task).isRunning = false := by
  cases s <;> rfl

/-- No worker is busy with one of the tasks. -/
def Idle (slots : List (Slot α β)) : Prop := ∀ s ∈ slots, s.isRunning = false

namespace Idle

variable {slots : List (Slot α β)}

theorem countP_eq (h : Idle slots) : slots.countP Slot.isRunning = 0 :=
  List.countP_eq_zero.mpr fun s hs => by simp [h s hs]

theorem modify (h : Idle slots) {f : Slot α β → Slot α β}
    (hf : ∀ s, s.isRunning = false → (f s).isRunning = false) (i : Nat) :
    Idle (slots.modify i f) := by
  intro s hs
  obtain ⟨j, hj, rfl⟩ := List.mem_iff_getElem.mp hs
  rw [List.getElem_modify]
  split
  · exact hf _ (h _ (List.getElem_mem _))
  · exact h _ (List.getElem_mem _)

/-- Whoever takes up a task ends it in the same turn. -/
theorem turn (h : Idle slots) (i : Nat) : Idle ((turn i).foldl (step workers task) slots) := by
  rw [Pool.turn, List.foldl_cons, List.foldl_cons, List.foldl_nil, step, step]
  split
  · rw [List.modify_modify_eq]
    exact h.modify (fun s _ => isRunning_finished task s.started) i
  · exact h.modify (fun s _ => isRunning_finished task s) i

theorem turns (h : Idle slots) (tasks : List Nat) :
    Idle ((tasks.flatMap Pool.turn).foldl (step workers task) slots) := by
  induction tasks generalizing slots with
  | nil => exact h
  | cons i rest ih =>
    rw [List.flatMap_cons, List.foldl_append]
    exact ih (h.turn i)

end Idle

/-- **Task by task every task is taken up and ended**, if there is a worker at all. -/
theorem completes_inOrder (hworkers : 0 < workers) (task : α → β) (inputs : List α) :
    Completes workers task inputs (Schedule.inOrder inputs.length) := by
  intro i hi
  obtain ⟨before, after, hsplit⟩ := List.append_of_mem (List.mem_range.mpr hi)
  refine ⟨before.flatMap turn, [], after.flatMap turn, ?_, ?_⟩
  · rw [Schedule.inOrder, hsplit, List.flatMap_append, List.flatMap_cons]
    rfl
  · have hwaiting : Idle (inputs.map Slot.waiting : List (Slot α β)) := fun s hs => by
      obtain ⟨x, -, rfl⟩ := List.mem_map.mp hs
      rfl
    rw [work, (hwaiting.turns before).countP_eq]
    exact hworkers

end Pool
end Typestate
