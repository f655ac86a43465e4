/-
# Proofs.Confirmation.Latest — which queued request is the latest

Without a route the latest request is meant.  It is found by going through the queue and keeping the
best request so far, which gives way only to a later one.  What is kept is the first of the requests
with the greatest time: all that stand before it are earlier, and none after it is later
(`IsLatest`).

The queue stands in the order in which its ids first came, and a request that is queued again under
its id keeps that place.  So a new id competes from the end of the queue, where it can win by a
greater time only, and a known one from where it stands.
-/
import WalletView.Confirmation.Target
import WalletView.Proofs.Map.Id

set_option autoImplicit false

namespace WalletView

/-- The request under an id is the latest of a queue: all that stand before it are earlier, and none
after it is later. -/
def IsLatest (queue : IdMap PendingApproval) (id : String) (approval : PendingApproval) : Prop :=
  ∃ before after, queue.entries = before ++ (id, approval) :: after ∧
    (∀ e ∈ before, e.2.time < approval.time) ∧ ∀ e ∈ after, e.2.time ≤ approval.time

namespace IsLatest

variable {queue : IdMap PendingApproval} {id id' : String} {approval approval' : PendingApproval}

theorem mem (isLatest : IsLatest queue id approval) : (id, approval) ∈ queue.entries := by
  obtain ⟨before, after, split, -, -⟩ := isLatest
  rw [split]
  exact List.mem_append_right _ List.mem_cons_self

/-- No request has a greater time than the latest. -/
theorem le (isLatest : IsLatest queue id approval) :
    ∀ e ∈ queue.entries, e.2.time ≤ approval.time := by
  obtain ⟨before, after, split, earlier, noLater⟩ := isLatest
  intro e member
  rw [split, List.mem_append, List.mem_cons] at member
  rcases member with inBefore | rfl | inAfter
  · exact UInt64.le_of_lt (earlier e inBefore)
  · exact UInt64.le_refl _
  · exact noLater e inAfter

/-- The latest request is that wherever its id is found to stand. -/
theorem of_split (isLatest : IsLatest queue id approval)
    {before after : List (String × PendingApproval)} {found : PendingApproval}
    (stands : queue.entries = before ++ (id, found) :: after) :
    (∀ e ∈ before, e.2.time < approval.time) ∧ ∀ e ∈ after, e.2.time ≤ approval.time := by
  obtain ⟨before', after', split, earlier, noLater⟩ := isLatest
  obtain ⟨rfl, -, rfl⟩ := IdMap.eq_of_split split stands
  exact ⟨earlier, noLater⟩

/-- A queue has one latest request. -/
theorem unique (isLatest : IsLatest queue id approval) (isLatest' : IsLatest queue id' approval') :
    id = id' ∧ approval = approval' := by
  have notBefore : ¬approval.time < approval'.time := UInt64.not_lt.2 (isLatest.le _ isLatest'.mem)
  have notAfter : ¬approval'.time < approval.time := UInt64.not_lt.2 (isLatest'.le _ isLatest.mem)
  obtain ⟨before, after, split, earlier, -⟩ := isLatest
  obtain ⟨before', after', split', earlier', -⟩ := isLatest'
  -- if the two stood in different places, the one that stands first would be earlier
  rcases List.append_eq_append_iff.1 (split.symm.trans split') with
    ⟨between, isBefore', rest⟩ | ⟨between, isBefore, rest⟩
  · cases between with
    | nil => exact Prod.mk.inj (List.cons.inj rest).1
    | cons first more =>
      obtain ⟨rfl, -⟩ := List.cons.inj rest
      exact absurd (earlier' _ (isBefore' ▸ List.mem_append_right _ List.mem_cons_self)) notBefore
  · cases between with
    | nil =>
      obtain ⟨sameId, sameApproval⟩ := Prod.mk.inj (List.cons.inj rest).1
      exact ⟨sameId.symm, sameApproval.symm⟩
    | cons first more =>
      obtain ⟨rfl, -⟩ := List.cons.inj rest
      exact absurd (earlier _ (isBefore ▸ List.mem_append_right _ List.mem_cons_self)) notAfter

end IsLatest

/-! ## Going through the queue -/

/-- The best of some entries, kept while going through them, is the first with the greatest time. -/
theorem foldl_laterApproval_cases (entries : List (String × PendingApproval)) :
    (entries = [] ∧ (entries.map Prod.snd).foldl laterApproval none = none) ∨
      ∃ before id approval after, entries = before ++ (id, approval) :: after ∧
        (∀ e ∈ before, e.2.time < approval.time) ∧ (∀ e ∈ after, e.2.time ≤ approval.time) ∧
        (entries.map Prod.snd).foldl laterApproval none = some approval := by
  -- the next entry is the last of those gone through so far
  induction entries using List.reverseRecOn with
  | nil => exact .inl ⟨rfl, rfl⟩
  | append_singleton entries next ih =>
    obtain ⟨nextId, nextApproval⟩ := next
    refine .inr ?_
    rw [List.map_append, List.foldl_append]
    rcases ih with ⟨rfl, noBest⟩ | ⟨before, id, approval, after, rfl, earlier, noLater, isBest⟩
    · exact ⟨[], nextId, nextApproval, [], rfl, nofun, nofun, rfl⟩
    · rw [isBest]
      by_cases stays : nextApproval.time ≤ approval.time
      · refine ⟨before, id, approval, after ++ [(nextId, nextApproval)], by simp, earlier, ?_,
          if_pos stays⟩
        exact List.forall_mem_append.2 ⟨noLater, List.forall_mem_singleton.2 stays⟩
      · have isLater : approval.time < nextApproval.time := UInt64.not_le.1 stays
        refine ⟨_, nextId, nextApproval, [], rfl, ?_, nofun, if_neg stays⟩
        refine List.forall_mem_append.2 ⟨fun e inBefore => ?_, List.forall_mem_cons.2
          ⟨isLater, fun e inAfter => ?_⟩⟩
        · exact UInt64.lt_trans (earlier e inBefore) isLater
        · exact UInt64.lt_of_le_of_lt (noLater e inAfter) isLater

section Queue

variable (queue : IdMap PendingApproval)

theorem latestApproval_eq_none_iff : latestApproval queue = none ↔ queue.isEmpty = true := by
  rw [IdMap.isEmpty, List.isEmpty_iff]
  rcases foldl_laterApproval_cases queue.entries with
    ⟨isEmpty, noBest⟩ | ⟨before, id, approval, after, split, -, -, isBest⟩
  · exact ⟨fun _ => isEmpty, fun _ => noBest⟩
  · refine ⟨fun none => ?_, fun isEmpty => ?_⟩
    · cases none.symm.trans isBest
    · rw [isEmpty] at split
      exact absurd split (by simp)

/-- **What is found is the latest request of the queue.** -/
theorem latestApproval_eq_some_iff (approval : PendingApproval) :
    latestApproval queue = some approval ↔ ∃ id, IsLatest queue id approval := by
  rcases foldl_laterApproval_cases queue.entries with
    ⟨isEmpty, noBest⟩ | ⟨before, id, best, after, split, earlier, noLater, isBest⟩
  · refine ⟨fun found => ?_, fun ⟨id, isLatest⟩ => ?_⟩
    · cases found.symm.trans noBest
    · have member := isLatest.mem
      rw [isEmpty] at member
      cases member
  · have isLatest : IsLatest queue id best := ⟨before, after, split, earlier, noLater⟩
    refine ⟨fun found => ?_, fun ⟨id', isLatest'⟩ => ?_⟩
    · obtain rfl : best = approval := Option.some.inj (isBest.symm.trans found)
      exact ⟨id, isLatest⟩
    · exact (isLatest.unique isLatest').2 ▸ isBest

/-! ## One more request -/

variable {id : String}

/-- A request under a new id competes from the end of the queue. -/
theorem latestApproval_insert_of_fresh (fresh : queue.contains id = false)
    (approval : PendingApproval) :
    latestApproval (queue.insert id approval) = laterApproval (latestApproval queue) approval := by
  have notMem : id ∉ queue.entries.map Prod.fst := by
    rw [← IdMap.contains_eq_true_iff, fresh]
    decide
  have inserted : (queue.insert id approval).entries = queue.entries ++ [(id, approval)] :=
    IdMap.put_of_fresh notMem
  rw [latestApproval, IdMap.values, inserted, List.map_append, List.foldl_append]
  rfl

/-- It changes what the latest request is just if there was none, or an earlier one. -/
theorem latestApproval_insert_ne_iff (fresh : queue.contains id = false)
    (approval : PendingApproval) :
    latestApproval (queue.insert id approval) ≠ latestApproval queue ↔
      queue.isEmpty = true ∨
        ∃ current, latestApproval queue = some current ∧ current.time < approval.time := by
  rw [latestApproval_insert_of_fresh queue fresh, ← latestApproval_eq_none_iff]
  cases latestApproval queue with
  | none => simp [laterApproval]
  | some current =>
    simp only [reduceCtorEq, Option.some.injEq, exists_eq_left', false_or]
    by_cases stays : approval.time ≤ current.time
    · rw [laterApproval, if_pos stays]
      exact ⟨fun changes => absurd rfl changes, fun isLater => absurd stays (UInt64.not_le.2 isLater)⟩
    · have isLater : current.time < approval.time := UInt64.not_le.1 stays
      rw [laterApproval, if_neg stays]
      refine ⟨fun _ => isLater, fun _ same => ?_⟩
      rw [Option.some.inj same] at isLater
      exact UInt64.lt_irrefl _ isLater

/-- A request that is queued again competes from the place where its id stands. -/
theorem isLatest_insert_iff {before after : List (String × PendingApproval)}
    {old : PendingApproval} (stands : queue.entries = before ++ (id, old) :: after)
    (approval : PendingApproval) :
    IsLatest (queue.insert id approval) id approval ↔
      (∀ e ∈ before, e.2.time < approval.time) ∧ ∀ e ∈ after, e.2.time ≤ approval.time := by
  have inserted : (queue.insert id approval).entries = before ++ (id, approval) :: after :=
    IdMap.entries_insert_of_split stands
  exact ⟨fun isLatest => isLatest.of_split inserted,
    fun ⟨earlier, noLater⟩ => ⟨before, after, inserted, earlier, noLater⟩⟩

end Queue

/-- **The latest request of a queue, whatever was queued, and queued again, on the way to it.**

* The ids of the queue stand in the order in which they first came, and each has the request that
  was last queued under it.
* There is no latest request just if the queue is empty; otherwise it is the one request before
  which all are earlier and after which none is later.
* A request under a new id changes it just if the queue was empty or the request is later.
* A request under a known id becomes the latest just if, from the place of that id, all before are
  earlier and none after is later. -/
theorem latestApproval_ofList (history : List (String × PendingApproval)) :
    let queue := IdMap.ofList history
    (queue.entries.map Prod.fst = (history.map Prod.fst).eraseDups ∧
        ∀ id, queue.get? id = history.reverse.lookup id) ∧
      ((latestApproval queue = none ↔ queue.isEmpty = true) ∧
        (∀ approval, latestApproval queue = some approval ↔ ∃ id, IsLatest queue id approval) ∧
        ∀ id id' approval approval', IsLatest queue id approval → IsLatest queue id' approval' →
          id = id' ∧ approval = approval') ∧
      (∀ id approval, queue.contains id = false →
        (latestApproval (queue.insert id approval) ≠ latestApproval queue ↔
          queue.isEmpty = true ∨
            ∃ current, latestApproval queue = some current ∧ current.time < approval.time)) ∧
      ∀ before id old after approval, queue.entries = before ++ (id, old) :: after →
        (IsLatest (queue.insert id approval) id approval ↔
          (∀ e ∈ before, e.2.time < approval.time) ∧ ∀ e ∈ after, e.2.time ≤ approval.time) := by
  intro queue
  refine ⟨⟨IdMap.map_fst_ofList history, IdMap.get?_ofList history⟩,
    ⟨latestApproval_eq_none_iff queue, latestApproval_eq_some_iff queue, ?_⟩, ?_, ?_⟩
  · exact fun _ _ _ _ isLatest isLatest' => isLatest.unique isLatest'
  · exact fun id approval fresh => latestApproval_insert_ne_iff queue fresh approval
  · exact fun before id old after approval stands => isLatest_insert_iff queue stands approval

/-- The first of two requests with one time is queued again with an earlier one, which makes the
second the latest; queued a third time with the old time, it is the latest again.  A third request
with that time comes too late. -/
theorem latestApproval_ofList_requeued :
    let request (id : String) (time : UInt64) : PendingApproval := ⟨id, .transaction, time, none⟩
    let queue := IdMap.ofList
      [("a", request "a" 5), ("b", request "b" 5), ("a", request "a" 3)]
    latestApproval queue = some (request "b" 5) ∧
      IsLatest (queue.insert "a" (request "a" 5)) "a" (request "a" 5) ∧
      queue.contains "c" = false ∧
      latestApproval (queue.insert "c" (request "c" 5)) = latestApproval queue ∧
      latestApproval (queue.insert "c" (request "c" 6)) ≠ latestApproval queue := by
  intro request queue
  obtain ⟨-, ⟨-, found, -⟩, atEnd, inPlace⟩ := latestApproval_ofList
    [("a", request "a" 5), ("b", request "b" 5), ("a", request "a" 3)]
  have entries : queue.entries = [("a", request "a" 3), ("b", request "b" 5)] := rfl
  have second : latestApproval queue = some (request "b" 5) := by
    refine (found _).2 ⟨"b", [("a", request "a" 3)], [], entries, ?_, nofun⟩
    exact List.forall_mem_singleton.2 (by decide)
  have fresh : queue.contains "c" = false := by decide
  refine ⟨second, ?_, fresh, ?_, ?_⟩
  · refine (inPlace [] "a" (request "a" 3) [("b", request "b" 5)] (request "a" 5) entries).2 ?_
    exact ⟨nofun, List.forall_mem_singleton.2 (by decide)⟩
  · refine not_not.1 fun changes => ?_
    rcases (atEnd "c" (request "c" 5) fresh).1 changes with isEmpty | ⟨current, isCurrent, isLater⟩
    · exact absurd isEmpty (by decide)
    · obtain rfl : request "b" 5 = current := Option.some.inj (second.symm.trans isCurrent)
      exact absurd isLater (by decide)
  · exact (atEnd "c" (request "c" 6) fresh).2 (.inr ⟨request "b" 5, second, by decide⟩)

end WalletView
