/-
# Proofs.Memo.Run — a selector over a run of uses

A run uses one selector again and again: by calls of either method, each with inputs and a
computation of its own, and by resets.  It keeps a history of them, the latest event first: what
each call was answered, and on which inputs its computation was used meanwhile.

A call is right after the events before it (`Answered.IsRight`) when

* it computes nothing just if there was a call since the last reset and its inputs are unchanged
  from those of the last such call, and then it is answered as that call was;
* else it computes once, on its own inputs, and is answered with a new allocation, except that the
  method that keeps an equal answer gives the last call's answer if that has the computed value.

The selector stores the inputs of its last miss, but the history speaks of the last call.
`Selector.Follows` ties the two: the inputs that are stored are unchanged from those of the last
call, and the answer that is stored is the one that this call was given.  What a single call can
come to is said once, in `Outcome`; the run is an induction on the uses.
-/
import WalletView.Proofs.Memo.Selector

set_option autoImplicit false

namespace WalletView.Selector

variable {shape : Dependency} {β : Type}

/-! ## After the last call -/

/-- The selector would give `answer` for `inputs`: it stores it, under inputs that are unchanged
from these. -/
def Holds (s : Selector shape β) (inputs : shape.Value) (answer : Shared β) : Prop :=
  ∃ stored, s.entry = some (stored, answer) ∧ shape.unchanged inputs stored = true

/-- The selector stores what the last call, if there was one, was given for its inputs. -/
def Follows (s : Selector shape β) : (last : Option (shape.Value × Shared β)) → Prop
  | none => s.entry = none
  | some (inputs, answer) => s.Holds inputs answer

/-- A selector that holds an answer gives it for inputs that are unchanged from those it holds it
for, whatever inputs it stores. -/
theorem Holds.remembered?_eq {s : Selector shape β} {inputs : shape.Value} {answer : Shared β}
    (holds : s.Holds inputs answer) (asked : shape.Value) :
    s.remembered? asked = if shape.unchanged asked inputs = true then some answer else none := by
  obtain ⟨stored, entry, same⟩ := holds
  simp only [remembered?, entry, Dependency.unchanged_congr same]

theorem holds_miss (s : Selector shape β) (inputs : shape.Value) (answer : Shared β) :
    (s.miss inputs answer).Holds inputs answer :=
  ⟨inputs, rfl, Dependency.unchanged_refl _ _⟩

/-! ## One call -/

/-- A call of a selector, by the method that keeps an equal answer or by the other one. -/
structure Call (shape : Dependency) (β : Type) where
  reusesEqual : Bool
  inputs : shape.Value
  compute : shape.Value → β

/-- The computation, with a note of the inputs that it is used on. -/
def noting (compute : shape.Value → β) (inputs : shape.Value) : StateM (List shape.Value) β := do
  modify (· ++ [inputs])
  return compute inputs

/-- The value that is computed from the call's own inputs. -/
def Call.value (c : Call shape β) : β :=
  c.compute c.inputs

section Asking

variable [BEq β]

namespace Call

/-- What a selector answers, and the selector that it leaves. -/
def ask (c : Call shape β) (s : Selector shape β) : Allocating (Shared β × Selector shape β) :=
  if c.reusesEqual then s.selectReusingEqual c.inputs c.compute else s.select c.inputs c.compute

/-- The same, with notes of the inputs that the computation is used on. -/
def askNoting (c : Call shape β) (s : Selector shape β) :
    StateT Supply (StateM (List shape.Value)) (Shared β × Selector shape β) :=
  if c.reusesEqual then s.selectReusingEqualBy c.inputs (noting c.compute)
  else s.selectBy c.inputs (noting c.compute)

/-- The inputs that the computation is used on while the call is answered. -/
def computedOn (c : Call shape β) (s : Selector shape β) (supply : Supply) : List shape.Value :=
  (c.askNoting s supply []).2

/-- The answer that is stored, if the call may keep it and it has the value that is computed. -/
def kept? (c : Call shape β) (s : Selector shape β) : Option (Shared β) :=
  if c.reusesEqual then (s.entry.map Prod.snd).filter (·.value == c.value) else none

theorem askNoting_of_remembered {c : Call shape β} {s : Selector shape β} {answer : Shared β}
    (found : s.remembered? c.inputs = some answer) (supply : Supply) (notes : List shape.Value) :
    c.askNoting s supply notes = (((answer, s.hit), supply), notes) := by
  unfold askNoting selectReusingEqualBy selectBy
  rw [found]
  cases c.reusesEqual <;> rfl

theorem askNoting_of_forgotten {c : Call shape β} {s : Selector shape β}
    (forgotten : s.remembered? c.inputs = none) (supply : Supply) (notes : List shape.Value) :
    c.askNoting s supply notes =
      match c.kept? s with
      | some answer => (((answer, s.miss c.inputs answer), supply), notes ++ [c.inputs])
      | none =>
        (((⟨supply.next, c.value⟩, s.miss c.inputs ⟨supply.next, c.value⟩), ⟨supply.next + 1⟩),
          notes ++ [c.inputs]) := by
  unfold askNoting selectReusingEqualBy selectBy kept?
  rw [forgotten]
  cases c.reusesEqual with
  | false => rfl
  | true =>
    rcases s.entry with _ | ⟨stored, answer⟩
    · rfl
    · show (if answer.value == c.value then
          (pure (answer, s.miss c.inputs answer) :
            StateT Supply (StateM (List shape.Value)) (Shared β × Selector shape β))
          else do
            let answer ← modifyGet (allocate c.value)
            pure (answer, s.miss c.inputs answer)) supply (notes ++ [c.inputs]) =
        match if answer.value == c.value then some answer else none with
        | some answer => _
        | none => _
      cases answer.value == c.value <;> rfl

/-- Taking notes changes nothing else. -/
theorem askNoting_fst (c : Call shape β) (s : Selector shape β) (supply : Supply)
    (notes : List shape.Value) : (c.askNoting s supply notes).1 = c.ask s supply := by
  unfold ask
  rw [select_eq, selectReusingEqual_eq]
  cases found : s.remembered? c.inputs with
  | some answer =>
    rw [askNoting_of_remembered found]
    cases c.reusesEqual <;> rfl
  | none =>
    rw [askNoting_of_forgotten found]
    unfold kept?
    cases c.reusesEqual with
    | false => rfl
    | true =>
      rcases s.entry with _ | ⟨stored, answer⟩
      · rfl
      · show (match if answer.value == c.value then some answer else none with
            | some answer => _
            | none => _ : ((Shared β × Selector shape β) × Supply) × List shape.Value).1 =
          (if answer.value == c.value then pure (answer, s.miss c.inputs answer)
            else do
              let answer ← allocate c.value
              pure (answer, s.miss c.inputs answer) :
            Allocating (Shared β × Selector shape β)) supply
        cases answer.value == c.value <;> rfl

end Call

/-- What a call comes to after the last one: the answer, the selector and the supply that are left,
and the inputs that the computation was used on. -/
inductive Outcome (s : Selector shape β) (c : Call shape β)
    (last : Option (shape.Value × Shared β)) (supply : Supply) :
    (Shared β × Selector shape β) × Supply → List shape.Value → Prop
  | hit {inputs : shape.Value} {answer : Shared β} (isLast : last = some (inputs, answer))
      (unchanged : shape.unchanged c.inputs inputs = true) :
      Outcome s c last supply ((answer, s.hit), supply) []
  | reuse {inputs : shape.Value} {answer : Shared β} (isLast : last = some (inputs, answer))
      (changed : shape.unchanged c.inputs inputs = false) (reuses : c.reusesEqual = true)
      (equal : (answer.value == c.value) = true) :
      Outcome s c last supply ((answer, s.miss c.inputs answer), supply) [c.inputs]
  | compute
      (changed : ∀ inputs answer, last = some (inputs, answer) →
        shape.unchanged c.inputs inputs = false ∧
          (c.reusesEqual = true → (answer.value == c.value) = false)) :
      Outcome s c last supply
        ((⟨supply.next, c.value⟩, s.miss c.inputs ⟨supply.next, c.value⟩), ⟨supply.next + 1⟩)
        [c.inputs]

/-- **What a call comes to.**  The cases are those of the code: the last answer is found for
unchanged inputs; or it is not, and then it is kept where it may be and is equal, or not. -/
theorem ask_outcome {s : Selector shape β} {last : Option (shape.Value × Shared β)}
    (follows : s.Follows last) (c : Call shape β) (supply : Supply) :
    Outcome s c last supply (c.ask s supply) (c.computedOn s supply) := by
  have noted : c.ask s supply = (c.askNoting s supply []).1 := (c.askNoting_fst s supply []).symm
  rw [noted, Call.computedOn]
  rcases last with _ | ⟨inputs, answer⟩
  · have entry : s.entry = none := follows
    have forgotten : s.remembered? c.inputs = none := by simp only [remembered?, entry]
    have notKept : c.kept? s = none := by simp [Call.kept?, entry]
    rw [Call.askNoting_of_forgotten forgotten, notKept]
    refine .compute ?_
    rintro _ _ ⟨⟩
  · have remembered := Holds.remembered?_eq follows c.inputs
    obtain ⟨stored, entry, -⟩ := id follows
    cases unchanged : shape.unchanged c.inputs inputs with
    | true =>
      rw [unchanged] at remembered
      rw [Call.askNoting_of_remembered remembered]
      exact .hit rfl unchanged
    | false =>
      rw [unchanged] at remembered
      rw [Call.askNoting_of_forgotten remembered]
      by_cases kept : c.reusesEqual = true ∧ (answer.value == c.value) = true
      · rw [show c.kept? s = some answer by simp [Call.kept?, entry, Option.filter, kept]]
        exact .reuse rfl unchanged kept.1 kept.2
      · have notKept : c.kept? s = none := by
          simpa [Call.kept?, entry, Option.filter] using kept
        rw [notKept]
        refine .compute ?_
        rintro _ _ ⟨⟩
        exact ⟨unchanged, fun reuses => by simpa [reuses] using kept⟩

namespace Outcome

variable {s : Selector shape β} {c : Call shape β} {last : Option (shape.Value × Shared β)}
  {supply : Supply} {result : (Shared β × Selector shape β) × Supply}
  {computedOn : List shape.Value}

theorem name_eq (outcome : Outcome s c last supply result computedOn) :
    result.1.2.name = s.name := by
  cases outcome <;> rfl

/-- The selector that is left stores what the call was given. -/
theorem holds (outcome : Outcome s c last supply result computedOn) (follows : s.Follows last) :
    result.1.2.Holds c.inputs result.1.1 := by
  cases outcome with
  | hit isLast unchanged =>
    subst isLast
    obtain ⟨stored, entry, same⟩ := id follows
    exact ⟨stored, entry, Dependency.unchanged_congr same _ ▸ unchanged⟩
  | reuse => exact holds_miss s _ _
  | compute => exact holds_miss s _ _

theorem grows (outcome : Outcome s c last supply result computedOn) :
    supply.next ≤ result.2.next := by
  cases outcome with
  | hit => exact Nat.le_refl _
  | reuse => exact Nat.le_refl _
  | compute => exact Nat.le_succ _

/-- The answer is allocated, if that of the last call is. -/
theorem allocated (outcome : Outcome s c last supply result computedOn)
    (isAllocated : ∀ call ∈ last, call.2.token < supply.next) :
    result.1.1.token < result.2.next := by
  cases outcome with
  | hit isLast => exact isAllocated _ isLast
  | reuse isLast => exact isAllocated _ isLast
  | compute => exact Nat.lt_succ_self _

theorem hits_eq (outcome : Outcome s c last supply result computedOn) :
    result.1.2.hits = s.hits + if computedOn.isEmpty then 1 else 0 := by
  cases outcome with
  | hit => rfl
  | reuse => exact (UInt64.add_zero _).symm
  | compute => exact (UInt64.add_zero _).symm

theorem recomputations_eq (outcome : Outcome s c last supply result computedOn) :
    result.1.2.recomputations = s.recomputations + if !computedOn.isEmpty then 1 else 0 := by
  cases outcome with
  | hit => exact (UInt64.add_zero _).symm
  | reuse => rfl
  | compute => rfl

end Outcome

end Asking

/-! ## A run -/

/-- A use of a selector. -/
inductive Use (shape : Dependency) (β : Type) where
  | call (call : Call shape β)
  | reset

/-- A call, what it was answered, and the inputs that its computation was used on meanwhile. -/
structure Answered (shape : Dependency) (β : Type) extends Call shape β where
  answer : Shared β
  computedOn : List shape.Value

/-- What a selector did. -/
inductive Event (shape : Dependency) (β : Type) where
  | answered (call : Answered shape β)
  | reset

/-- The use that an event comes from. -/
def Event.use : Event shape β → Use shape β
  | answered call => .call call.toCall
  | reset => .reset

/-- A selector after some uses, with its history, the latest event first. -/
structure Ran (shape : Dependency) (β : Type) where
  history : List (Event shape β)
  selector : Selector shape β
  supply : Supply

/-- A call, as a selector answers it. -/
def Call.answered [BEq β] (c : Call shape β) (s : Selector shape β) (supply : Supply) :
    Answered shape β :=
  { c with answer := (c.ask s supply).1.1, computedOn := c.computedOn s supply }

/-- One more use. -/
def Ran.next [BEq β] (ran : Ran shape β) : Use shape β → Ran shape β
  | .reset => ⟨.reset :: ran.history, ran.selector.reset, ran.supply⟩
  | .call c =>
    let ((_, selector), supply) := c.ask ran.selector ran.supply
    ⟨.answered (c.answered ran.selector ran.supply) :: ran.history, selector, supply⟩

/-- A new selector after some uses, one after another. -/
def run [BEq β] (name : String) (start : Supply) (uses : List (Use shape β)) : Ran shape β :=
  uses.foldl Ran.next ⟨[], new name, start⟩

/-- The calls since the last reset, the latest first. -/
def sinceReset : List (Event shape β) → List (Answered shape β)
  | .answered call :: earlier => call :: sinceReset earlier
  | _ => []

/-- A call answered as it must be after the events before it.  No allocation from before the run
has a token from `start` on. -/
structure Answered.IsRight [BEq β] (start : Supply) (earlier : List (Event shape β))
    (call : Answered shape β) : Prop where
  hit_iff : call.computedOn = [] ↔
    ∃ last ∈ (sinceReset earlier).head?, shape.unchanged call.inputs last.inputs = true
  /-- A hit is answered as the call before. -/
  hit : call.computedOn = [] → ∀ last ∈ (sinceReset earlier).head?, call.answer = last.answer
  /-- A miss computes once, on its own inputs. -/
  once : call.computedOn ≠ [] → call.computedOn = [call.inputs]
  /-- A miss is answered as the call before if its method keeps an equal answer. -/
  reused : call.computedOn ≠ [] → call.reusesEqual = true →
    ∀ last ∈ (sinceReset earlier).head?, (last.answer.value == call.value) = true →
      call.answer = last.answer
  /-- Any other miss is answered with a new allocation of what it computed. -/
  fresh : call.computedOn ≠ [] →
    (call.reusesEqual = true →
      ∀ last ∈ (sinceReset earlier).head?, (last.answer.value == call.value) = false) →
    call.answer.value = call.value ∧ start.next ≤ call.answer.token ∧
      ∀ other, .answered other ∈ earlier → other.answer.token ≠ call.answer.token

/-- What a run has come to: the selector follows the last call since the last reset, its counts are
those of the calls since then, every answer is allocated, and every call was answered right. -/
structure Ran.Invariant [BEq β] (name : String) (start : Supply) (ran : Ran shape β) : Prop where
  named : ran.selector.name = name
  follows : ran.selector.Follows
    ((sinceReset ran.history).head?.map fun call => (call.inputs, call.answer))
  hits : ran.selector.hits = .ofNat ((sinceReset ran.history).countP (·.computedOn.isEmpty))
  recomputations :
    ran.selector.recomputations = .ofNat ((sinceReset ran.history).countP (!·.computedOn.isEmpty))
  grown : start.next ≤ ran.supply.next
  allocated : ∀ call, .answered call ∈ ran.history → call.answer.token < ran.supply.next
  right : ∀ later call earlier, ran.history = later ++ .answered call :: earlier →
    call.IsRight start earlier

section Step

variable {name : String} {start : Supply} {ran : Ran shape β}

/-- A call since the last reset is one of the history. -/
theorem mem_of_mem_sinceReset {call : Answered shape β} {history : List (Event shape β)}
    (member : call ∈ sinceReset history) : .answered call ∈ history := by
  fun_induction sinceReset history with
  | case1 first earlier ih =>
    rcases List.mem_cons.1 member with rfl | older
    · exact List.mem_cons_self
    · exact List.mem_cons_of_mem _ (ih older)
  | case2 => cases member

variable [BEq β]

theorem invariant_start (name : String) (start : Supply) :
    (⟨[], new name, start⟩ : Ran shape β).Invariant name start where
  named := rfl
  follows := rfl
  hits := rfl
  recomputations := rfl
  grown := Nat.le_refl _
  allocated := nofun
  right later call earlier history := by simp at history

/-- The answer to the last call is allocated. -/
theorem Ran.Invariant.last_allocated (invariant : ran.Invariant name start) :
    ∀ call ∈ (sinceReset ran.history).head?.map fun call => (call.inputs, call.answer),
      call.2.token < ran.supply.next := by
  intro call member
  obtain ⟨last, isLast, rfl⟩ := Option.map_eq_some_iff.1 member
  exact invariant.allocated last (mem_of_mem_sinceReset (List.mem_of_mem_head? isLast))

theorem Ran.Invariant.reset (invariant : ran.Invariant name start) :
    (ran.next .reset).Invariant name start where
  named := invariant.named
  follows := rfl
  hits := rfl
  recomputations := rfl
  grown := invariant.grown
  allocated call member := by
    rcases List.mem_cons.1 member with isReset | older
    · cases isReset
    · exact invariant.allocated call older
  right later call earlier history := by
    rcases List.cons_eq_append_iff.1 history with ⟨-, isReset⟩ | ⟨later, -, older⟩
    · cases isReset
    · exact invariant.right later call earlier older

/-- **A call is answered as it must be after the events before it.** -/
theorem Ran.Invariant.isRight (invariant : ran.Invariant name start) (c : Call shape β) :
    (c.answered ran.selector ran.supply).IsRight start ran.history := by
  have outcome := ask_outcome invariant.follows c ran.supply
  unfold Call.answered
  revert outcome
  generalize c.ask ran.selector ran.supply = result
  generalize c.computedOn ran.selector ran.supply = computedOn
  intro outcome
  cases outcome with
  | hit isLast unchanged =>
    obtain ⟨last, found, same⟩ := Option.map_eq_some_iff.1 isLast
    cases same
    refine ⟨⟨fun _ => ⟨last, found, unchanged⟩, fun _ => rfl⟩, ?_, ?_, ?_, ?_⟩
    · intro _ last' isLast'
      cases found.symm.trans isLast'
      rfl
    · exact fun missed => absurd rfl missed
    · exact fun missed => absurd rfl missed
    · exact fun missed => absurd rfl missed
  | reuse isLast changed reuses equal =>
    obtain ⟨last, found, same⟩ := Option.map_eq_some_iff.1 isLast
    cases same
    refine ⟨⟨nofun, ?_⟩, nofun, fun _ => rfl, ?_, ?_⟩
    · rintro ⟨last', isLast', unchanged⟩
      cases found.symm.trans isLast'
      exact absurd (changed.symm.trans unchanged) (by decide)
    · intro _ _ last' isLast' _
      cases found.symm.trans isLast'
      rfl
    · intro _ unequal
      exact absurd ((unequal reuses last found).symm.trans equal) (by decide)
  | compute changed =>
    have changed {last : Answered shape β} (isLast : last ∈ (sinceReset ran.history).head?) :=
      changed last.inputs last.answer (Option.map_eq_some_iff.2 ⟨last, isLast, rfl⟩)
    refine ⟨⟨nofun, ?_⟩, nofun, fun _ => rfl, ?_, ?_⟩
    · rintro ⟨last, isLast, unchanged⟩
      exact absurd ((changed isLast).1.symm.trans unchanged) (by decide)
    · intro _ reuses last isLast equal
      exact absurd (((changed isLast).2 reuses).symm.trans equal) (by decide)
    · intro _ _
      refine ⟨rfl, invariant.grown, fun other member same => ?_⟩
      exact absurd (invariant.allocated other member) (same ▸ Nat.lt_irrefl _)

theorem Ran.Invariant.call (invariant : ran.Invariant name start) (c : Call shape β) :
    (ran.next (.call c)).Invariant name start := by
  have outcome := ask_outcome invariant.follows c ran.supply
  have counted (p : Answered shape β → Bool) (call : Answered shape β) (n : UInt64)
      (counts : n = .ofNat ((sinceReset ran.history).countP p)) :
      (n + if p call then 1 else 0) =
        .ofNat ((sinceReset (.answered call :: ran.history)).countP p) := by
    rw [sinceReset, List.countP_cons, UInt64.ofNat_add, counts]
    split <;> rfl
  refine ⟨outcome.name_eq.trans invariant.named, outcome.holds invariant.follows, ?_, ?_,
    Nat.le_trans invariant.grown outcome.grows, ?_, ?_⟩
  · exact outcome.hits_eq.trans
      (counted (·.computedOn.isEmpty) (c.answered ran.selector ran.supply) _ invariant.hits)
  · exact outcome.recomputations_eq.trans
      (counted (!·.computedOn.isEmpty) (c.answered ran.selector ran.supply) _
        invariant.recomputations)
  · intro call member
    rcases List.mem_cons.1 member with same | older
    · cases same
      exact outcome.allocated invariant.last_allocated
    · exact Nat.lt_of_lt_of_le (invariant.allocated call older) outcome.grows
  · intro later call earlier history
    rcases List.cons_eq_append_iff.1 history with ⟨-, isNew⟩ | ⟨later, -, older⟩
    · cases isNew
      exact invariant.isRight c
    · exact invariant.right later call earlier older

end Step

/-! ## The whole run -/

variable [BEq β]

/-- One use after another keeps the invariant. -/
theorem Ran.Invariant.foldl {name : String} {start : Supply} {ran : Ran shape β}
    (invariant : ran.Invariant name start) (uses : List (Use shape β)) :
    (uses.foldl Ran.next ran).Invariant name start := by
  induction uses generalizing ran with
  | nil => exact invariant
  | cons use more ih =>
    cases use with
    | call c => exact ih (invariant.call c)
    | reset => exact ih invariant.reset

theorem run_invariant (name : String) (start : Supply) (uses : List (Use shape β)) :
    (run name start uses).Invariant name start :=
  (invariant_start name start).foldl uses

/-- What was there before is kept in the history, and makes no difference. -/
theorem foldl_next (uses : List (Use shape β)) (before earlier : List (Event shape β))
    (s : Selector shape β) (supply : Supply) :
    uses.foldl Ran.next ⟨before ++ earlier, s, supply⟩ =
      let ran := uses.foldl Ran.next ⟨before, s, supply⟩
      ⟨ran.history ++ earlier, ran.selector, ran.supply⟩ := by
  induction uses generalizing before s supply with
  | nil => rfl
  | cons use more ih =>
    cases use with
    | call c => exact ih (.answered (c.answered s supply) :: before) _ _
    | reset => exact ih (.reset :: before) _ _

theorem map_use_foldl (uses : List (Use shape β)) (ran : Ran shape β) :
    (uses.foldl Ran.next ran).history.map Event.use =
      uses.reverse ++ ran.history.map Event.use := by
  induction uses generalizing ran with
  | nil => rfl
  | cons use more ih =>
    rw [List.foldl_cons, ih, List.reverse_cons, List.append_assoc]
    cases use <;> rfl

/-- **A selector over a run of uses**, of whatever inputs and computations:

* every call is answered as it must be after the events before it;
* the hits and recomputations since the last reset are together the calls since then, and the
  recomputations are those of them that computed, as far as a word can count;
* from a reset on, all is as with a new selector. -/
theorem run_isRight (name : String) (start : Supply) (uses : List (Use shape β)) :
    let ran := run name start uses
    ran.history.map Event.use = uses.reverse ∧
      (∀ later call earlier, ran.history = later ++ .answered call :: earlier →
        call.IsRight start earlier) ∧
      ran.selector.hits + ran.selector.recomputations = .ofNat (sinceReset ran.history).length ∧
      ran.selector.recomputations =
        .ofNat ((sinceReset ran.history).countP (!·.computedOn.isEmpty)) ∧
      ∀ more, run name start (uses ++ .reset :: more) =
        let renewed := run name ran.supply more
        ⟨renewed.history ++ .reset :: ran.history, renewed.selector, renewed.supply⟩ := by
  intro ran
  have invariant : ran.Invariant name start := run_invariant name start uses
  refine ⟨?_, invariant.right, ?_, invariant.recomputations, fun more => ?_⟩
  · exact (map_use_foldl uses ⟨[], new name, start⟩).trans (List.append_nil _)
  · have parts := List.length_eq_countP_add_countP
      (fun call : Answered shape β => call.computedOn.isEmpty) (l := sinceReset ran.history)
    simp only [decide_not, Bool.decide_eq_true] at parts
    rw [invariant.hits, invariant.recomputations, ← UInt64.ofNat_add, parts]
  · have reset : ran.selector.reset = new name := by rw [Selector.reset, invariant.named]
    calc run name start (uses ++ .reset :: more)
      _ = more.foldl Ran.next ⟨[] ++ .reset :: ran.history, ran.selector.reset, ran.supply⟩ := by
        rw [run, List.foldl_append]
        rfl
      _ = _ := by
        rw [foldl_next, reset]
        rfl

end WalletView.Selector
