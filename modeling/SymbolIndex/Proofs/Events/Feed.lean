import SymbolIndex.Events.Feed

/-!
# Queues of a feed

A batch that is sent ends up in the queue of each subscriber whose receiver is there. What one
receiver does leaves the queues of the others alone, and so does a new subscriber, who has a number
of its own.
-/

namespace SymbolIndex

namespace Feed

/-- The feed has a subscriber of the number, and its receiver has not been dropped. -/
def Has (f : Feed) (id : Nat) : Prop :=
  ∃ s, f.subscribers.find? (fun s => s.id == id) = some s ∧ s.alive = true

/-- The subscribers have been numbered by the feed. -/
def Sound (f : Feed) : Prop := ∀ s ∈ f.subscribers, s.id < f.next

variable {f : Feed} {id : Nat}

theorem find?_modify (f : Feed) (id id' : Nat) {g : Subscriber → Subscriber}
    (hid : ∀ s, (g s).id = s.id) :
  (f.modify id g).subscribers.find? (fun s => s.id == id')
    = (f.subscribers.find? fun s => s.id == id').map fun s => if s.id = id then g s else s
  := by
  have hsame : (fun s : Subscriber => s.id == id') ∘ (fun s => if s.id = id then g s else s)
      = fun s => s.id == id' := by
    funext s
    by_cases hs : s.id = id <;> simp [hs, hid]
  rw [modify, List.find?_map, hsame]

theorem queue_modify_of_ne {id' : Nat} (h : id' ≠ id) {g : Subscriber → Subscriber}
    (hid : ∀ s, (g s).id = s.id) :
  (f.modify id g).queue id' = f.queue id'
  := by
  rw [queue, queue, find?_modify f id id' hid]
  cases hs : f.subscribers.find? fun s => s.id == id' with
  | none => rfl
  | some s =>
      have hs' : s.id = id' := by simpa using List.find?_some hs
      simp [hs', h]

theorem queue_modify {g : Subscriber → Subscriber} {c : List EventBatch → List EventBatch}
    (hid : ∀ s, (g s).id = s.id) (hqueue : ∀ s, (g s).queue = c s.queue) (hnil : c [] = []) :
  (f.modify id g).queue id = c (f.queue id)
  := by
  rw [queue, queue, find?_modify f id id hid]
  cases hs : f.subscribers.find? fun s => s.id == id with
  | none => simp [hnil]
  | some s =>
      have hs' : s.id = id := by simpa using List.find?_some hs
      simp [hs', hqueue]

theorem Has.modify (h : f.Has id) {id' : Nat} {g : Subscriber → Subscriber}
    (hid : ∀ s, (g s).id = s.id) (halive : ∀ s, id' = id → s.alive = true → (g s).alive = true) :
  (f.modify id' g).Has id
  := by
  obtain ⟨s, hs, hs'⟩ := h
  refine ⟨if s.id = id' then g s else s, ?_, ?_⟩
  · rw [find?_modify f id' id hid, hs]
    rfl
  · split
    case isTrue href =>
        have hmatch : s.id = id := by simpa using List.find?_some hs
        exact halive s (href.symm.trans hmatch) hs'
    case isFalse => exact hs'

/-- A subscriber whose receiver is there is found among those whose receivers are there. -/
theorem find?_alive {l : List Subscriber} {s : Subscriber}
    (hs : l.find? (fun s => s.id == id) = some s) (halive : s.alive = true) :
  (l.filter Subscriber.alive).find? (fun s => s.id == id) = some s
  := by
  induction l with
  | nil => cases hs
  | cons s' l ih =>
      by_cases hs' : s'.id = id
      · rw [List.find?_cons_of_pos (by simpa using hs')] at hs
        obtain rfl := Option.some.inj hs
        rw [List.filter_cons_of_pos halive, List.find?_cons_of_pos (by simpa using hs')]
      · rw [List.find?_cons_of_neg (by simpa using hs')] at hs
        rw [List.filter_cons]
        split
        · rw [List.find?_cons_of_neg (by simpa using hs')]
          exact ih hs
        · exact ih hs

/-- The subscriber has not been removed from the feed to which a batch is sent. -/
theorem Has.find?_emit {s : Subscriber} (hs : f.subscribers.find? (fun s => s.id == id) = some s)
    (halive : s.alive = true) (batch : EventBatch) :
  (f.emit batch).subscribers.find? (fun s => s.id == id)
    = some { s with queue := s.queue ++ [batch] }
  := by
  rw [emit, List.find?_map]
  exact congrArg (Option.map _) (find?_alive hs halive)

theorem Has.emit (h : f.Has id) (batch : EventBatch) :
  (f.emit batch).Has id
  := by
  obtain ⟨s, hs, halive⟩ := h
  exact ⟨_, Has.find?_emit hs halive batch, halive⟩

theorem Has.queue_emit (h : f.Has id) (batch : EventBatch) :
  (f.emit batch).queue id = f.queue id ++ [batch]
  := by
  obtain ⟨s, hs, halive⟩ := h
  rw [queue, queue, Has.find?_emit hs halive, hs]
  rfl

theorem Has.find?_subscribe (h : f.Has id) :
  f.subscribe.2.subscribers.find? (fun s => s.id == id)
    = f.subscribers.find? fun s => s.id == id
  := by
  obtain ⟨s, hs, -⟩ := h
  rw [subscribe, List.find?_append, hs]
  rfl

theorem Has.subscribe (h : f.Has id) :
  f.subscribe.2.Has id
  := by
  rw [Has, h.find?_subscribe]
  exact h

theorem Has.queue_subscribe (h : f.Has id) :
  f.subscribe.2.queue id = f.queue id
  := by
  rw [queue, queue, h.find?_subscribe]

/-- The number of the next subscriber is not in use. -/
theorem Sound.find?_next (h : f.Sound) :
  f.subscribers.find? (fun s => s.id == f.next) = none
  := by
  rw [List.find?_eq_none]
  intro s hs
  have hid := h s hs
  simpa using Nat.ne_of_lt hid

/-- A new subscriber has a number of its own. -/
theorem Sound.has_subscribe (h : f.Sound) :
  f.subscribe.2.Has f.subscribe.1
  := by
  refine ⟨{ id := f.next }, ?_, rfl⟩
  simp [Feed.subscribe, h.find?_next]

/-- A new subscriber holds nothing. -/
theorem Sound.queue_subscribe (h : f.Sound) :
  f.subscribe.2.queue f.subscribe.1 = []
  := by
  simp [Feed.subscribe, queue, h.find?_next]

theorem Sound.subscribe (h : f.Sound) :
  f.subscribe.2.Sound
  := by
  intro s hs
  rcases List.mem_append.mp hs with hs | hs
  · exact Nat.lt_succ_of_lt (h s hs)
  · obtain rfl := List.mem_singleton.mp hs
    exact Nat.lt_succ_self _

theorem Sound.modify (h : f.Sound) (id : Nat) {g : Subscriber → Subscriber}
    (hid : ∀ s, (g s).id = s.id) :
  (f.modify id g).Sound
  := by
  intro s' hs'
  obtain ⟨s, hs, rfl⟩ := List.mem_map.mp hs'
  have hlt := h s hs
  split
  · rw [hid]
    exact hlt
  · exact hlt

theorem Sound.emit (h : f.Sound) (batch : EventBatch) :
  (f.emit batch).Sound
  := by
  intro s' hs'
  obtain ⟨s, hs, rfl⟩ := List.mem_map.mp hs'
  exact h s (List.mem_filter.mp hs).1

end Feed

end SymbolIndex
