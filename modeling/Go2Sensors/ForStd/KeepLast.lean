import Mathlib.Data.List.Infix

/-!
# Queues that keep the last elements

A queue of a fixed depth that drops its oldest elements when it is full. What is taken out of
it is in the order in which it was put in, and an element is lost only if as many newer ones as
the queue is deep come in before it is taken.

## Key results

- `Channel.Passes.step`: what is taken, what waits, and what came in
- `Channel.complete_step`: when nothing is lost
- `Channel.taken_or_waits`: when an element is lost
-/

namespace KeepLast

variable {α : Type}

/-- A queue with the history of its two ends. -/
structure Channel (α : Type) where
  queue : List α
  /-- what was taken out -/
  taken : List α
  /-- what was put in -/
  pushed : List α

/-- An operation at one of the ends. -/
inductive Op (α : Type) where
  | push (x : α)
  | take

/-- Put an element in. -/
def push (depth : Nat) (queue : List α) (x : α) : List α :=
  (queue ++ [x]).drop (queue.length + 1 - depth)

/-- What is known of a history that keeps the last elements: the new element is put behind the
    others, and only as many as do not fit are dropped, from the front. -/
structure KeepsLast (put : Nat → List α → α → List α) : Prop where
  suffix : ∀ depth queue x, put depth queue x <:+ queue ++ [x]
  length : ∀ depth queue x, (put depth queue x).length = min depth (queue.length + 1)

theorem keepsLast_push : KeepsLast (push (α := α)) where
  suffix _ _ _ := List.drop_suffix _ _
  length depth queue x := by
    simp only [push, List.length_drop, List.length_append, List.length_singleton]
    omega

/-- There is one such history. -/
theorem KeepsLast.eq_push {put : Nat → List α → α → List α} (h : KeepsLast put) : put = push := by
  funext depth queue x
  have hdrop := List.suffix_iff_eq_drop.mp (h.suffix depth queue x)
  have hlength : (queue ++ [x]).length - (put depth queue x).length
      = queue.length + 1 - depth := by
    rw [h.length, List.length_append, List.length_singleton]
    omega
  rw [hdrop, hlength]
  rfl

namespace Channel

/-- Nothing has come in. -/
def init : Channel α := ⟨[], [], []⟩

/-- An operation. Nothing is taken out of an empty queue. -/
def step (depth : Nat) (c : Channel α) : Op α → Channel α
  | .push x => { c with queue := KeepLast.push depth c.queue x, pushed := c.pushed ++ [x] }
  | .take =>
    match c.queue with
    | [] => c
    | x :: queue => { c with queue, taken := c.taken ++ [x] }

/-! ## Order -/

/-- What waits are the newest elements, and what was taken is a part of the others, in order. -/
structure Passes (depth : Nat) (c : Channel α) : Prop where
  order : ∃ older, c.pushed = older ++ c.queue ∧ c.taken.Sublist older
  bounded : c.queue.length ≤ depth

theorem passes_init (depth : Nat) : Passes depth (init : Channel α) :=
  ⟨⟨[], rfl, List.Sublist.refl _⟩, Nat.zero_le _⟩

theorem Passes.step {depth : Nat} {c : Channel α} (h : Passes depth c) (op : Op α) :
    Passes depth (c.step depth op) := by
  obtain ⟨⟨older, hpushed, htaken⟩, hbounded⟩ := h
  cases op with
  | push x =>
    constructor
    · refine ⟨older ++ (c.queue ++ [x]).take (c.queue.length + 1 - depth), ?_,
        htaken.trans (List.sublist_append_left _ _)⟩
      show c.pushed ++ [x] = _ ++ (c.queue ++ [x]).drop _
      rw [List.append_assoc, List.take_append_drop, hpushed, List.append_assoc]
    · simp only [Channel.step, push, List.length_drop, List.length_append, List.length_singleton]
      omega
  | take =>
    cases hqueue : c.queue with
    | nil =>
      simp only [Channel.step, hqueue]
      exact ⟨⟨older, hpushed, htaken⟩, hbounded⟩
    | cons x queue =>
      simp only [Channel.step, hqueue]
      rw [hqueue] at hpushed hbounded
      refine ⟨⟨older ++ [x], ?_, htaken.append (List.Sublist.refl _)⟩, ?_⟩
      · rw [hpushed, List.append_assoc]
        rfl
      · exact Nat.le_of_succ_le hbounded

/-! ## Losses -/

theorem push_of_lt {depth : Nat} {queue : List α} (h : queue.length < depth) (x : α) :
    push depth queue x = queue ++ [x] := by
  rw [push, show queue.length + 1 - depth = 0 by omega, List.drop_zero]

/-- Nothing is lost as long as there is room for what comes in. -/
theorem complete_step {depth : Nat} {c : Channel α} (h : c.pushed = c.taken ++ c.queue)
    (op : Op α) (hroom : ∀ x, op = .push x → c.queue.length < depth) :
    (c.step depth op).pushed = (c.step depth op).taken ++ (c.step depth op).queue := by
  cases op with
  | push x =>
    show c.pushed ++ [x] = c.taken ++ KeepLast.push depth c.queue x
    rw [push_of_lt (hroom x rfl), h, List.append_assoc]
  | take =>
    cases hqueue : c.queue with
    | nil =>
      simp only [Channel.step, hqueue]
      rw [h, hqueue]
    | cons x queue =>
      simp only [Channel.step, hqueue]
      rw [h, hqueue, List.append_assoc]
      rfl

/-- The number of elements that come in. -/
def pushes : List (Op α) → Nat
  | [] => 0
  | .push _ :: ops => pushes ops + 1
  | .take :: ops => pushes ops

/-- The number of times that something is to be taken. -/
def takes : List (Op α) → Nat
  | [] => 0
  | .push _ :: ops => takes ops
  | .take :: ops => takes ops + 1

/-- The element was taken after the first `start` ones, or waits with at most `newer` elements
    behind it and, after `turns` chances to take it, only the others before it. -/
def Kept (depth : Nat) (x : α) (start newer turns : Nat) (c : Channel α) : Prop :=
  start ≤ c.taken.length ∧
    (x ∈ c.taken.drop start ∨
      ∃ pre post, c.queue = pre ++ x :: post ∧ post.length ≤ newer ∧ pre.length + turns < depth)

theorem Kept.push {depth start newer turns : Nat} {x : α} {c : Channel α}
    (h : Kept depth x start newer turns c) (y : α) (hfew : newer + 1 < depth) :
    Kept depth x start (newer + 1) turns (c.step depth (.push y)) := by
  obtain ⟨hstart, hkept⟩ := h
  refine ⟨hstart, hkept.imp id ?_⟩
  rintro ⟨pre, post, hqueue, hpost, hturns⟩
  -- only elements before it are dropped
  have hdrop : c.queue.length + 1 - depth ≤ pre.length := by
    rw [hqueue, List.length_append, List.length_cons]
    omega
  refine ⟨pre.drop (c.queue.length + 1 - depth), post ++ [y], ?_, ?_, ?_⟩
  · show (c.queue ++ [y]).drop _ = _
    rw [hqueue] at hdrop ⊢
    rw [List.append_assoc, List.drop_append_of_le_length hdrop, List.cons_append]
  · rw [List.length_append, List.length_singleton]
    omega
  · rw [List.length_drop]
    omega

theorem Kept.take {depth start newer turns : Nat} {x : α} {c : Channel α}
    (h : Kept depth x start newer turns c) :
    Kept depth x start newer (turns + 1) (c.step depth .take) := by
  obtain ⟨hstart, hkept⟩ := h
  cases hqueue : c.queue with
  | nil =>
    simp only [Channel.step, hqueue]
    refine ⟨hstart, hkept.imp id ?_⟩
    rintro ⟨pre, post, hsplit, -⟩
    simp [hqueue] at hsplit
  | cons z queue =>
    simp only [Channel.step, hqueue]
    constructor
    · exact Nat.le_trans hstart (by simp)
    rw [hqueue] at hkept
    rcases hkept with htaken | ⟨pre, post, hsplit, hpost, hturns⟩
    · rw [List.drop_append_of_le_length hstart]
      exact Or.inl (List.mem_append_left _ htaken)
    · cases pre with
      | nil =>
        -- it is the one that is taken
        obtain ⟨rfl, -⟩ := List.cons.inj hsplit
        rw [List.drop_append_of_le_length hstart]
        exact Or.inl (List.mem_append_right _ List.mem_cons_self)
      | cons z' pre =>
        obtain ⟨-, hrest⟩ := List.cons.inj hsplit
        rw [List.length_cons] at hturns
        exact Or.inr ⟨pre, post, hrest, hpost, by omega⟩

/-- An element is kept while fewer newer ones come in than the queue is deep. -/
theorem Kept.run {depth start newer turns : Nat} {x : α} {c : Channel α} {ops : List (Op α)}
    (h : Kept depth x start newer turns c) (hfew : newer + pushes ops < depth) :
    Kept depth x start (newer + pushes ops) (turns + takes ops) (ops.foldl (step depth) c) := by
  induction ops generalizing c newer turns with
  | nil => exact h
  | cons op ops ih =>
    cases op with
    | push y =>
      rw [pushes] at hfew
      rw [pushes, show newer + (pushes ops + 1) = newer + 1 + pushes ops by omega]
      exact ih (h.push y (by omega)) (by omega)
    | take =>
      rw [pushes] at hfew
      rw [takes, show turns + (takes ops + 1) = turns + 1 + takes ops by omega]
      exact ih h.take hfew

/-- An element is lost only if as many newer ones as the queue is deep come in before it is
    taken. If that many are taken, it is among them. -/
theorem taken_or_waits {depth : Nat} (c : Channel α) (x : α) {later : List (Op α)}
    (hfew : pushes later < depth) :
    x ∈ ((.push x :: later).foldl (step depth) c).taken.drop c.taken.length ∨
      x ∈ ((.push x :: later).foldl (step depth) c).queue ∧ takes later < depth := by
  have hnow : Kept depth x c.taken.length 0 0 (c.step depth (.push x)) := by
    refine ⟨Nat.le_refl _, Or.inr ⟨c.queue.drop (c.queue.length + 1 - depth), [], ?_, ?_, ?_⟩⟩
    · exact List.drop_append_of_le_length (by omega)
    · exact Nat.le_refl 0
    · rw [List.length_drop]
      omega
  obtain ⟨-, hkept⟩ := hnow.run (show 0 + pushes later < depth by omega)
  refine hkept.imp id ?_
  rintro ⟨pre, post, hqueue, -, hturns⟩
  rw [List.foldl_cons, hqueue]
  exact ⟨List.mem_append_right _ List.mem_cons_self, by omega⟩

end Channel

end KeepLast
