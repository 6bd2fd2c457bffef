import Asio.Scheduler.Model

/-! # The task and the descriptor states in a queue

An operation queue read as a line: which descriptor states stand in it, how often
the task does, and whether the task stands behind every descriptor state.
-/

namespace Asio.Scheduler

variable {Op D : Type*}

/-- The descriptor states among the operations of a queue, in order. -/
def descriptors (queue : List (Operation Op D)) : List D :=
  queue.filterMap fun
    | .descriptor descriptor => some descriptor
    | _ => none

/-- How often the task operation occurs in a queue. -/
def taskCount (queue : List (Operation Op D)) : ℕ :=
  queue.countP fun
    | .task => true
    | _ => false

/-- Every descriptor state in the queue has the task behind it. -/
def BeforeTask : List (Operation Op D) → Prop
  | [] => True
  | .descriptor _ :: rest => 0 < taskCount rest ∧ BeforeTask rest
  | _ :: rest => BeforeTask rest

section Queues

variable (queue rest : List (Operation Op D)) (ops : List Op)

@[simp] theorem descriptors_nil : descriptors ([] : List (Operation Op D)) = [] := rfl

@[simp] theorem descriptors_task : descriptors (.task :: queue) = descriptors queue := rfl

@[simp] theorem descriptors_user (op : Op) :
    descriptors (.user op :: queue) = descriptors queue := rfl

@[simp] theorem descriptors_descriptor (descriptor : D) :
    descriptors (.descriptor descriptor :: queue : List (Operation Op D)) =
      descriptor :: descriptors queue := rfl

@[simp] theorem descriptors_append :
    descriptors (queue ++ rest) = descriptors queue ++ descriptors rest := by
  simp [descriptors]

@[simp] theorem descriptors_map_user :
    descriptors (ops.map Operation.user : List (Operation Op D)) = [] := by
  simp [descriptors]

theorem mem_descriptors {queue : List (Operation Op D)} {descriptor : D} :
    descriptor ∈ descriptors queue ↔ .descriptor descriptor ∈ queue := by
  unfold descriptors
  rw [List.mem_filterMap]
  constructor
  · intro ⟨o, member, same⟩
    cases o with
    | descriptor other =>
        simp only [Option.some.injEq] at same
        exact same ▸ member
    | task => simp at same
    | user op => simp at same
  · exact fun member => ⟨_, member, rfl⟩

@[simp] theorem taskCount_nil : taskCount ([] : List (Operation Op D)) = 0 := rfl

@[simp] theorem taskCount_task : taskCount (.task :: queue) = taskCount queue + 1 := by
  simp [taskCount]

@[simp] theorem taskCount_user (op : Op) : taskCount (.user op :: queue) = taskCount queue := by
  simp [taskCount]

@[simp] theorem taskCount_descriptor (descriptor : D) :
    taskCount (.descriptor descriptor :: queue : List (Operation Op D)) = taskCount queue := by
  simp [taskCount]

@[simp] theorem taskCount_append :
    taskCount (queue ++ rest) = taskCount queue + taskCount rest := by
  simp [taskCount]

@[simp] theorem taskCount_map_user :
    taskCount (ops.map Operation.user : List (Operation Op D)) = 0 := by
  simp [taskCount]

/-- An element of a queue is linked to the next one or is the last. -/
theorem mem_dropLast_or_getLast? {o : Operation Op D} {queue : List (Operation Op D)}
    (member : o ∈ queue) : o ∈ queue.dropLast ∨ queue.getLast? = some o := by
  rcases List.eq_nil_or_concat queue with rfl | ⟨front, last, rfl⟩
  · exact absurd member List.not_mem_nil
  · rw [List.concat_eq_append, List.dropLast_concat, List.getLast?_concat]
    rw [List.concat_eq_append, List.mem_append, List.mem_singleton] at member
    exact member.imp id fun same => congrArg some same.symm

theorem taskCount_eq_zero {queue : List (Operation Op D)} :
    taskCount queue = 0 ↔ .task ∉ queue := by
  unfold taskCount
  rw [List.countP_eq_zero]
  constructor
  · intro none member
    simpa using none _ member
  · intro absent o member
    cases o with
    | task => exact absurd member absent
    | user op => simp
    | descriptor descriptor => simp

/-- A queue without descriptor states. -/
theorem BeforeTask.of_descriptors_nil {queue : List (Operation Op D)}
    (none : descriptors queue = []) : BeforeTask queue := by
  induction queue with
  | nil => exact trivial
  | cons o queue ih =>
      cases o with
      | task => exact ih none
      | user op => exact ih none
      | descriptor descriptor => simp at none

theorem BeforeTask.append {queue rest : List (Operation Op D)} (first : BeforeTask queue)
    (second : BeforeTask rest) : BeforeTask (queue ++ rest) := by
  induction queue with
  | nil => exact second
  | cons o queue ih =>
      cases o with
      | task => exact ih first
      | user op => exact ih first
      | descriptor descriptor =>
          refine ⟨?_, ih first.2⟩
          change 0 < taskCount (queue ++ rest)
          rw [taskCount_append]
          exact Nat.lt_of_lt_of_le first.1 (Nat.le_add_right _ _)

/-- Behind a whole queue, the task is behind every descriptor state. -/
theorem beforeTask_append_task : BeforeTask (queue ++ [.task]) := by
  induction queue with
  | nil => exact trivial
  | cons o queue ih =>
      cases o with
      | task => exact ih
      | user op => exact ih
      | descriptor descriptor =>
          refine ⟨?_, ih⟩
          simp

theorem BeforeTask.tail {o : Operation Op D} {queue : List (Operation Op D)}
    (ordered : BeforeTask (o :: queue)) : BeforeTask queue := by
  cases o with
  | task => exact ordered
  | user op => exact ordered
  | descriptor descriptor => exact ordered.2

/-- Without the task in the queue there are no descriptor states in it. -/
theorem BeforeTask.descriptors_eq_nil {queue : List (Operation Op D)} (ordered : BeforeTask queue)
    (absent : taskCount queue = 0) : descriptors queue = [] := by
  induction queue with
  | nil => rfl
  | cons o queue ih =>
      cases o with
      | task => simp at absent
      | user op => exact ih ordered (by simpa using absent)
      | descriptor descriptor =>
          have behind := ordered.1
          simp only [taskCount_descriptor] at absent
          omega

end Queues

end Asio.Scheduler
