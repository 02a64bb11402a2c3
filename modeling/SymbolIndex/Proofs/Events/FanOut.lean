import Mathlib.Data.List.DropRight
import SymbolIndex.Proofs.Events.Feed

/-!
# Fan-out of a feed

Subscriptions, batches, and receivers that take batches or are dropped come one after the other, in
any order. A receiver that has not been dropped has been sent the batches since its subscription,
each once and in order, whatever the others do. The feed counts the receivers that were left by
the last batch, and those that have been subscribed since.
-/

namespace SymbolIndex

/-- Something that is done with a feed or with the receiver of one of its subscribers. -/
inductive FeedDeed where
  | subscribe
  | emit (batch : EventBatch)
  | receive (id : Nat)
  | drain (id : Nat)
  | drop (id : Nat)
deriving DecidableEq

namespace FeedDeed

def act (f : Feed) : FeedDeed → Feed
  | subscribe => f.subscribe.2
  | emit batch => f.emit batch
  | receive id => (f.receive id).2
  | drain id => (f.drain id).2
  | drop id => f.drop id

/-- The batches that a receiver takes. -/
def taken (f : Feed) (id : Nat) : FeedDeed → List EventBatch
  | receive id' => if id' = id then (f.receive id).1.toList else []
  | drain id' => if id' = id then (f.drain id).1 else []
  | _ => []

/-- The batch that is sent. -/
def batch? : FeedDeed → Option EventBatch
  | emit batch => some batch
  | _ => none

end FeedDeed

open FeedDeed

/-! ### Histories -/

namespace Feed

/-- The feed after some deeds. -/
def after (f : Feed) (deeds : List FeedDeed) : Feed := deeds.foldl FeedDeed.act f

/-- The batches that a receiver has taken. -/
def taken (f : Feed) (id : Nat) : List FeedDeed → List EventBatch
  | [] => []
  | deed :: deeds => deed.taken f id ++ (deed.act f).taken id deeds

/-- The batches that a receiver has taken and those that it still holds. -/
def received (f : Feed) (id : Nat) (deeds : List FeedDeed) : List EventBatch :=
  f.taken id deeds ++ (f.after deeds).queue id

end Feed

namespace FeedDeed

/-- The batches that have been sent, first one first. -/
def sent (deeds : List FeedDeed) : List EventBatch := deeds.filterMap batch?

/-- The number of subscriptions. -/
def subscriptions (deeds : List FeedDeed) : Nat := deeds.count subscribe

/-- The number of receivers that have not been dropped, when the next one has the given number. -/
def leftFrom : Nat → List FeedDeed → Nat
  | _, [] => 0
  | n, subscribe :: deeds => (if drop n ∈ deeds then 0 else 1) + leftFrom (n + 1) deeds
  | n, _ :: deeds => leftFrom n deeds

/-- The number of receivers that have not been dropped. -/
def left (deeds : List FeedDeed) : Nat := leftFrom 0 deeds

/-- What has been done up to the last batch that has been sent. -/
def throughBatch (deeds : List FeedDeed) : List FeedDeed := deeds.rdropWhile fun d => d.batch?.isNone

/-- What has been done since the last batch that has been sent, or from the beginning on. -/
def sinceBatch (deeds : List FeedDeed) : List FeedDeed := deeds.rtakeWhile fun d => d.batch?.isNone

theorem subscriptions_cons (deed : FeedDeed) (deeds : List FeedDeed) :
  subscriptions (deed :: deeds) = subscriptions deeds + if deed = subscribe then 1 else 0
  := by
  rw [subscriptions, List.count_cons]
  cases deed <;> rfl

/-- A batch that is sent drops no receiver. -/
theorem leftFrom_append_emit (n : Nat) (deeds : List FeedDeed) (batch : EventBatch) :
  leftFrom n (deeds ++ [emit batch]) = leftFrom n deeds
  := by
  induction deeds generalizing n with
  | nil => rfl
  | cons deed deeds ih =>
      cases deed with
      | subscribe => simp [leftFrom, ih]
      | _ => exact ih n

end FeedDeed

namespace Feed

variable {f : Feed} {id : Nat}

/-! ### What a receiver has been sent -/

/-- What an operation adds to a receiver is the batch that it sends. -/
theorem Has.act (h : f.Has id) {deed : FeedDeed} (hdrop : deed ≠ .drop id) :
  (deed.act f).Has id
    ∧ deed.taken f id ++ (deed.act f).queue id = f.queue id ++ deed.batch?.toList
  := by
  cases deed with
  | subscribe =>
      constructor
      · apply h.subscribe
      · simp [FeedDeed.act, FeedDeed.taken, batch?, h.queue_subscribe]
  | emit batch =>
      constructor
      · apply h.emit
      · simp [FeedDeed.act, FeedDeed.taken, batch?, h.queue_emit]
  | receive id' =>
      constructor
      · apply h.modify
        · exact fun _ => rfl
        · exact fun _ _ halive => halive
      · rcases eq_or_ne id' id with rfl | hid
        · have hqueue : (f.receive id').2.queue id' = (f.queue id').tail :=
            queue_modify (by intro s; rfl) (by intro s; rfl) rfl
          have hfirst : (f.receive id').1 = (f.queue id').head? := rfl
          rw [FeedDeed.act, FeedDeed.taken, if_pos rfl, hqueue, hfirst]
          cases f.queue id' <;> simp [batch?]
        · have hqueue : (f.receive id').2.queue id = f.queue id :=
            queue_modify_of_ne hid.symm (by intro s; rfl)
          simp [FeedDeed.act, FeedDeed.taken, batch?, hid, hqueue]
  | drain id' =>
      constructor
      · apply h.modify
        · exact fun _ => rfl
        · exact fun _ _ halive => halive
      · rcases eq_or_ne id' id with rfl | hid
        · have hqueue : (f.drain id').2.queue id' = [] :=
            queue_modify (c := fun _ => []) (by intro s; rfl) (by intro s; rfl) rfl
          have hall : (f.drain id').1 = f.queue id' := rfl
          simp [FeedDeed.act, FeedDeed.taken, batch?, hqueue, hall]
        · have hqueue : (f.drain id').2.queue id = f.queue id :=
            queue_modify_of_ne hid.symm (by intro s; rfl)
          simp [FeedDeed.act, FeedDeed.taken, batch?, hid, hqueue]
  | drop id' =>
      have hid : id ≠ id' := by
        rintro rfl
        exact hdrop rfl
      constructor
      · apply h.modify
        · exact fun _ => rfl
        · exact fun _ hsame => absurd hsame.symm hid
      · have hqueue : (f.drop id').queue id = f.queue id :=
          queue_modify_of_ne hid (by intro s; rfl)
        simp [FeedDeed.act, FeedDeed.taken, batch?, hqueue]

/-- A receiver that is not dropped gets what is sent behind what it holds. -/
theorem Has.received (h : f.Has id) {deeds : List FeedDeed} (hdrop : .drop id ∉ deeds) :
  f.received id deeds = f.queue id ++ sent deeds
  := by
  induction deeds generalizing f with
  | nil => simp [Feed.received, Feed.taken, after, sent]
  | cons deed deeds ih =>
      have hfirst : deed ≠ .drop id := fun hdeed => hdrop (hdeed ▸ List.mem_cons_self)
      have hrest : .drop id ∉ deeds := fun hdeed => hdrop (List.mem_cons_of_mem _ hdeed)
      obtain ⟨hkept, htaken⟩ := h.act hfirst
      have hlater : (deed.act f).received id deeds
          = (deed.act f).queue id ++ sent deeds := ih hkept hrest
      have hsent : sent (deed :: deeds) = deed.batch?.toList ++ sent deeds := by
        rw [sent, List.filterMap_cons]
        cases deed.batch? <;> rfl
      calc
        f.received id (deed :: deeds)
          = deed.taken f id ++ (deed.act f).received id deeds := List.append_assoc _ _ _
        _ = f.queue id ++ sent (deed :: deeds) := by
          rw [hlater, ← List.append_assoc, htaken, hsent, List.append_assoc]

theorem Sound.act (h : f.Sound) (deed : FeedDeed) :
  (deed.act f).Sound
  := by
  cases deed with
  | subscribe => apply h.subscribe
  | emit batch => apply h.emit
  | receive id | drain id | drop id =>
      apply h.modify
      exact fun _ => rfl

theorem Sound.after (h : f.Sound) (deeds : List FeedDeed) :
  (f.after deeds).Sound
  := by
  induction deeds generalizing f with
  | nil => exact h
  | cons deed deeds ih =>
      apply ih
      apply h.act

/-! ### How many subscribers there are -/

/-- The number of subscribers whose receivers are there and will not be dropped. -/
def lasting (f : Feed) (deeds : List FeedDeed) : Nat :=
  f.subscribers.countP fun s => s.alive && .drop s.id ∉ deeds

/-- An operation that is to come drops a receiver, or all that are there last. -/
theorem lasting_cons {deed : FeedDeed} (hdrop : ∀ id, deed ≠ .drop id) (deeds : List FeedDeed) :
  f.lasting (deed :: deeds) = f.lasting deeds
  := by
  rw [lasting, lasting]
  congr 1
  funext s
  simp [(hdrop s.id).symm]

theorem lasting_modify (id : Nat) {g : Subscriber → Subscriber}
    (hg : ∀ s, (g s).id = s.id ∧ (g s).alive = s.alive) (deeds : List FeedDeed) :
  (f.modify id g).lasting deeds = f.lasting deeds
  := by
  rw [lasting, modify, List.countP_map]
  congr 1
  funext s
  obtain ⟨hid, halive⟩ := hg s
  rw [Function.comp_apply]
  split
  · rw [hid, halive]
  · rfl

theorem lasting_subscribe (f : Feed) (deeds : List FeedDeed) :
  f.subscribe.2.lasting deeds = f.lasting deeds + if .drop f.next ∈ deeds then 0 else 1
  := by
  simp [lasting, Feed.subscribe, List.countP_append, List.countP_singleton]

theorem lasting_emit (f : Feed) (batch : EventBatch) (deeds : List FeedDeed) :
  (f.emit batch).lasting deeds = f.lasting deeds
  := by
  rw [lasting, emit, List.countP_map, List.countP_filter, lasting]
  congr 1
  funext s
  cases halive : s.alive <;> simp [halive]

theorem lasting_drop (f : Feed) (id : Nat) (deeds : List FeedDeed) :
  (f.drop id).lasting deeds = f.lasting (.drop id :: deeds)
  := by
  rw [lasting, Feed.drop, modify, List.countP_map, lasting]
  congr 1
  funext s
  by_cases hid : s.id = id <;> simp [hid]

/-- The receivers that are there and will last, with those that are still to come. -/
theorem lasting_act (f : Feed) (deed : FeedDeed) (deeds : List FeedDeed) :
  (deed.act f).lasting deeds + leftFrom (deed.act f).next deeds
    = f.lasting (deed :: deeds) + leftFrom f.next (deed :: deeds)
  := by
  cases deed with
  | subscribe =>
      rw [FeedDeed.act, lasting_subscribe, lasting_cons fun _ => FeedDeed.noConfusion, leftFrom,
        Nat.add_assoc]
      rfl
  | emit batch =>
      rw [FeedDeed.act, lasting_emit, lasting_cons fun _ => FeedDeed.noConfusion]
      rfl
  | receive id | drain id =>
      rw [FeedDeed.act, lasting_cons fun _ => FeedDeed.noConfusion]
      apply congrArg (· + leftFrom f.next deeds)
      apply lasting_modify
      exact fun _ => ⟨rfl, rfl⟩
  | drop id =>
      rw [FeedDeed.act, lasting_drop]
      rfl

/-- The receivers that are there are those that were and have lasted, and new ones. -/
theorem lasting_after (f : Feed) (deeds : List FeedDeed) :
  (f.after deeds).lasting [] = f.lasting deeds + leftFrom f.next deeds
  := by
  induction deeds generalizing f with
  | nil => rfl
  | cons deed deeds ih => exact (ih (deed.act f)).trans (lasting_act f deed deeds)

/-- A batch that is sent leaves the subscribers whose receivers are there. -/
theorem count_emit (f : Feed) (batch : EventBatch) :
  (f.emit batch).count = f.lasting []
  := by
  simp [count, emit, lasting, List.countP_eq_length_filter]

/-- Until the next batch is sent nobody is noticed to be gone. -/
theorem count_act {deed : FeedDeed} (hbatch : deed.batch? = none) :
  (deed.act f).count = f.count + if deed = .subscribe then 1 else 0
  := by
  cases deed with
  | subscribe => simp [FeedDeed.act, count, Feed.subscribe]
  | emit batch => cases hbatch
  | receive id | drain id | drop id => apply List.length_map

theorem count_after {deeds : List FeedDeed} (hbatch : ∀ deed ∈ deeds, deed.batch? = none) :
  (f.after deeds).count = f.count + subscriptions deeds
  := by
  induction deeds generalizing f with
  | nil => rfl
  | cons deed deeds ih =>
      have hfirst : deed.batch? = none := hbatch deed List.mem_cons_self
      have hlater : ((deed.act f).after deeds).count
          = (deed.act f).count + subscriptions deeds :=
        ih fun deed' hdeed' => hbatch deed' (List.mem_cons_of_mem _ hdeed')
      rw [count_act hfirst] at hlater
      rw [subscriptions_cons]
      apply hlater.trans
      omega

theorem after_append (f : Feed) (deeds deeds' : List FeedDeed) :
  f.after (deeds ++ deeds') = (f.after deeds).after deeds'
  := List.foldl_append

/-- Directly after a batch the feed counts the receivers that are there. -/
theorem count_after_emit (deeds : List FeedDeed) (batch : EventBatch) :
  (after {} (deeds ++ [.emit batch])).count = left (deeds ++ [.emit batch])
  := by
  have hcount : (after {} (deeds ++ [.emit batch])).count = (after {} deeds).lasting [] := by
    rw [after_append]
    apply count_emit
  rw [hcount, lasting_after, left, leftFrom_append_emit]
  simp [lasting]

/-- What has been done up to the last batch ends with a batch, if there has been one. -/
theorem throughBatch_cases (deeds : List FeedDeed) :
  throughBatch deeds = [] ∨ ∃ before batch, throughBatch deeds = before ++ [.emit batch]
  := by
  by_cases hnone : throughBatch deeds = []
  · exact .inl hnone
  · right
    have hlast : ¬ ((throughBatch deeds).getLast hnone).batch?.isNone :=
      List.rdropWhile_last_not _ _ hnone
    have hsplit := List.dropLast_append_getLast hnone
    generalize (throughBatch deeds).getLast hnone = last at hlast hsplit
    cases last with
    | emit batch => exact ⟨_, batch, hsplit.symm⟩
    | _ => exact absurd rfl hlast

/-! ### The feed as a whole -/

/-- What a feed with a history behind it owes to its receivers, and what it says of them. -/
structure FansOut (deeds : List FeedDeed) : Prop where
  /-- A receiver that is made now and not dropped has taken or holds what is sent from now on. -/
  received : ∀ later, .drop (after {} deeds).subscribe.1 ∉ later →
    (after {} deeds).subscribe.2.received (after {} deeds).subscribe.1 later = sent later
  /-- The receivers that were there after the last batch, and the subscriptions since. -/
  count : (after {} deeds).count = left (throughBatch deeds) + subscriptions (sinceBatch deeds)
  /-- With one more batch, the receivers that are there. -/
  noticed : ∀ batch,
    (after {} (deeds ++ [.emit batch])).count = left (deeds ++ [.emit batch])

/-- Whatever has been done with a feed, each receiver gets the batches since its subscription. -/
theorem fans_out (deeds : List FeedDeed) :
  FansOut deeds
  := by
  have hsound : (after {} deeds).Sound := by
    apply Sound.after
    intro s hs
    cases hs
  constructor
  · intro later hdrop
    rw [hsound.has_subscribe.received hdrop, hsound.queue_subscribe, List.nil_append]
  · have hsplit : throughBatch deeds ++ sinceBatch deeds = deeds := by
      apply List.rdropWhile_append_rtakeWhile
    have hquiet : ∀ deed ∈ sinceBatch deeds, deed.batch? = none := by
      intro deed hdeed
      simpa using List.mem_rtakeWhile_imp hdeed
    have hthrough : (after {} (throughBatch deeds)).count = left (throughBatch deeds) := by
      rcases throughBatch_cases deeds with hnone | ⟨before, batch, hbatch⟩
      · rw [hnone]
        rfl
      · rw [hbatch]
        apply count_after_emit
    calc
      (after {} deeds).count
        = ((after {} (throughBatch deeds)).after (sinceBatch deeds)).count := by
          rw [← after_append, hsplit]
      _ = left (throughBatch deeds) + subscriptions (sinceBatch deeds) := by
          rw [count_after hquiet, hthrough]
  · apply count_after_emit

end Feed

end SymbolIndex
