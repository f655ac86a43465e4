/-
# Proofs.Json.Steady — reads that are settled by what they use

A read is *steady* if what it gives is settled by the part of the text that it uses:

* `extend`: text put behind does not change it, unless what was read is open-ended, as a number is,
  and the text ended with it;
* `cut`: nor does text taken away behind the part that it uses;
* `torn`: a text that is cut off within that part is not taken for one of the wrong shape.  The
  problem is then that the text ends, or that it is no JSON.

Steady reads make up steady reads: one after another (`Steady.bind`), chosen by a character
(`steady_ite`), and over and over until a bracket closes (`steady_loop`).
-/
import WalletView.Json.Reader
import WalletView.Proofs.Json.FormOnly
import WalletView.Proofs.Json.Grammar.Value

set_option autoImplicit false

namespace WalletView.Json

/-- What a read gives is settled by the part of the text that it uses. -/
structure Steady {α : Type} (openEnded : α → Prop) (read : List Char → Outcome α) : Prop where
  suffix : ∀ {text rest : List Char} {a : α}, read text = .ok (a, rest) → rest <:+ text
  extend : ∀ {text rest more : List Char} {a : α}, read text = .ok (a, rest) →
    (rest = [] → openEnded a → Separated more) → read (text ++ more) = .ok (a, rest ++ more)
  cut : ∀ {text rest more : List Char} {a : α}, read (text ++ more) = .ok (a, rest ++ more) →
    read text = .ok (a, rest)
  torn : ∀ {text rest more : List Char} {a : α}, read (text ++ more) = .ok (a, rest) →
    FormOnly (read text)

/-- What never goes on behind its end. -/
def Closed {α : Type} (_ : α) : Prop :=
  False

/-- What may go on behind its end, if the text does. -/
def OpenEnded {α : Type} (_ : α) : Prop :=
  True

section Steady

variable {α β : Type} {P : α → Prop} {Q : β → Prop}

/-! ## Reads that make up others -/

/-- What fails on every text is steady. -/
theorem steady_error (problem : List Char → ReadError) :
    Steady P fun text => .error (problem text) :=
  ⟨nofun, nofun, nofun, nofun⟩

/-- What uses no text is steady. -/
theorem steady_const (x : Except ReadError α) :
    Steady P fun text => x.map fun a => (a, text) := by
  cases x with
  | error e => exact steady_error fun _ => e
  | ok a =>
    constructor
    · intro text rest b same
      cases same
      exact List.suffix_refl text
    · intro text rest more b same _
      cases same
      rfl
    · intro text rest more b same
      simp only [Except.map, Except.ok.injEq, Prod.mk.injEq] at same
      obtain ⟨rfl, same⟩ := same
      rw [List.append_cancel_right same]
      rfl
    · intro text rest more b _
      exact formOnly_ok _

theorem steady_const_map (x : Except ReadError β) (f : β → α) :
    Steady P fun text => x.map fun b => (f b, text) := by
  have mapped : Steady P fun text => (x.map f).map fun a => (a, text) := steady_const (x.map f)
  have same (text : List Char) : ((x.map f).map fun a => (a, text)) = x.map fun b => (f b, text) := by
    cases x <;> rfl
  rwa [funext same] at mapped

theorem steady_ite {c : Prop} [Decidable c] {f g : List Char → Outcome α} (onTrue : c → Steady P f)
    (onFalse : ¬ c → Steady P g) : Steady P fun text => if c then f text else g text := by
  by_cases h : c
  · simpa only [if_pos h] using onTrue h
  · simpa only [if_neg h] using onFalse h

theorem Steady.map {f : List Char → Outcome α} (steady : Steady P f) (g : α → β)
    (kept : ∀ a, P a → Q (g a)) : Steady Q fun text => (f text).map fun (a, rest) => (g a, rest) := by
  constructor
  · intro text rest b read
    obtain ⟨⟨a, last⟩, isRead, same⟩ := map_eq_ok.1 read
    obtain ⟨-, rfl⟩ := Prod.mk.inj same
    exact steady.suffix isRead
  · intro text rest more b read ends
    obtain ⟨⟨a, last⟩, isRead, same⟩ := map_eq_ok.1 read
    obtain ⟨rfl, rfl⟩ := Prod.mk.inj same
    exact map_eq_ok.2 ⟨_, steady.extend isRead fun atEnd isOpen => ends atEnd (kept a isOpen), rfl⟩
  · intro text rest more b read
    obtain ⟨⟨a, last⟩, isRead, same⟩ := map_eq_ok.1 read
    obtain ⟨rfl, rfl⟩ := Prod.mk.inj same
    exact map_eq_ok.2 ⟨_, steady.cut isRead, rfl⟩
  · intro text rest more b read
    obtain ⟨⟨a, last⟩, isRead, -⟩ := map_eq_ok.1 read
    exact (steady.torn isRead).map _

/-- **Reads one after another are steady**, if behind what is open-ended the second does not end with
the text, unless it is open-ended too, and finds no problem of shape where the text ends, unless it
does so however the text goes on. -/
theorem Steady.bind {f : List Char → Outcome α} {g : α → List Char → Outcome β}
    (first : Steady P f) (second : ∀ a, Steady Q (g a))
    (handsOn : ∀ a b rest, P a → g a [] = .ok (b, rest) → Q b)
    (atEnd : ∀ {text more rest last a a' b}, P a → f text = .ok (a, []) →
      f (text ++ more) = .ok (a', rest) → g a' rest = .ok (b, last) → FormOnly (g a [])) :
    Steady Q fun text => (f text).bind fun (a, rest) => g a rest := by
  constructor
  · intro text rest b read
    obtain ⟨⟨a, middle⟩, readFirst, readSecond⟩ := bind_eq_ok.1 read
    exact ((second a).suffix readSecond).trans (first.suffix readFirst)
  · intro text rest more b read ends
    obtain ⟨⟨a, middle⟩, readFirst, readSecond⟩ := bind_eq_ok.1 read
    have extended : f (text ++ more) = .ok (a, middle ++ more) := by
      refine first.extend readFirst fun isNil isOpen => ?_
      subst isNil
      have nothingLeft := List.suffix_nil.1 ((second a).suffix readSecond)
      exact ends nothingLeft (handsOn a b rest isOpen readSecond)
    exact bind_eq_ok.2 ⟨_, extended, (second a).extend readSecond ends⟩
  · intro text rest more b read
    obtain ⟨⟨a, middle⟩, readFirst, readSecond⟩ := bind_eq_ok.1 read
    obtain ⟨behind, rfl⟩ := (List.suffix_append rest more).trans ((second a).suffix readSecond)
    exact bind_eq_ok.2 ⟨_, first.cut readFirst, (second a).cut readSecond⟩
  · intro text rest more b read e isError
    obtain ⟨⟨a, middle⟩, readFirst, readSecond⟩ := bind_eq_ok.1 read
    cases here : f text with
    | error e' =>
      simp only [here, Except.bind, Except.error.injEq] at isError
      subst isError
      exact first.torn readFirst e' here
    | ok result =>
      obtain ⟨a', behind⟩ := result
      simp only [here, Except.bind] at isError
      by_cases goesOn : behind = [] ∧ P a'
      · obtain ⟨rfl, isOpen⟩ := goesOn
        exact atEnd isOpen here readFirst readSecond e isError
      · have extended : f (text ++ more) = .ok (a', behind ++ more) :=
          first.extend here fun isNil isOpen => absurd ⟨isNil, isOpen⟩ goesOn
        rw [readFirst] at extended
        cases extended
        exact (second a).torn readSecond e isError

/-- A second read behind what is not open-ended may be any that is steady. -/
theorem Steady.bind_closed {f : List Char → Outcome α} {g : α → List Char → Outcome β}
    (first : Steady Closed f) (second : ∀ a, Steady Q (g a)) :
    Steady Q fun text => (f text).bind fun (a, rest) => g a rest :=
  first.bind second (fun _ _ _ isOpen => isOpen.elim) fun isOpen => isOpen.elim

/-- What uses some of a text is steady with a character of it put in front. -/
theorem Steady.cons {f : List Char → Outcome α} (steady : Steady P f)
    (uses : ∀ {text rest : List Char} {a : α}, f text = .ok (a, rest) → Rest text rest) (c : Char) :
    Steady P fun text => f (c :: text) where
  suffix read := (uses read).suffix_tail
  extend read ends := steady.extend read ends
  cut read := steady.cut read
  torn read := steady.torn read

/-- What is not open-ended need not be told from what is. -/
theorem Steady.openEnded {f : List Char → Outcome α} (steady : Steady P f) :
    Steady OpenEnded f where
  suffix := steady.suffix
  extend read separated := steady.extend read fun isNil _ => separated isNil trivial
  cut := steady.cut
  torn := steady.torn

/-! ## Over and over -/

/-- What one step of a loop gives: the loop's result, or how it goes on. -/
inductive Round (σ β : Type) where
  | stop (b : β)
  | go (next : σ) (f : β → β)

/-- A loop that goes on does so behind what is open-ended. -/
def Round.GoesOn {σ β : Type} : Round σ β → Prop
  | .stop _ => False
  | .go _ _ => True

section Loop

variable {σ : Type}

/-- What a loop comes to after one step of it. -/
def Round.continue (loop : σ → List Char → Outcome β) : Round σ β → List Char → Outcome β
  | .stop b, rest => .ok (b, rest)
  | .go next f, rest => (loop next rest).map fun (b, rest) => (f b, rest)

/-- A loop of so many steps at most. -/
def unroll (step : σ → List Char → Outcome (Round σ β)) : Nat → σ → List Char → Outcome β
  | 0, _, _ => .error .expectedValue
  | n + 1, s, text => (step s text).bind fun (round, rest) => round.continue (unroll step n) rest

variable {step : σ → List Char → Outcome (Round σ β)} {loop : σ → List Char → Outcome β}

/-- There are no more steps than characters, since each step uses some text. -/
theorem loop_eq_unroll
    (unfolds : ∀ s text,
      loop s text = (step s text).bind fun (round, rest) => round.continue loop rest)
    (uses : ∀ {s text rest round}, step s text = .ok (round, rest) → Rest text rest)
    {n : Nat} {text : List Char} (fits : text.length < n) (s : σ) :
    loop s text = unroll step n s text := by
  induction n generalizing text s with
  | zero => exact absurd fits (Nat.not_lt_zero _)
  | succ n ih =>
    rw [unfolds, unroll]
    cases here : step s text with
    | error e => rfl
    | ok result =>
      obtain ⟨round, rest⟩ := result
      cases round with
      | stop b => rfl
      | go next f =>
        have shorter := (uses here).shorter
        simp only [Except.bind, Round.continue, ih (show rest.length < n by omega)]

theorem steady_unroll (steady : ∀ s, Steady Round.GoesOn (step s))
    (atEnd : ∀ s, ∃ e, step s [] = .error e ∧ e.category ≠ .data) (n : Nat) (s : σ) :
    Steady Closed (unroll step n s) := by
  induction n generalizing s with
  | zero => exact steady_error fun _ => .expectedValue
  | succ n ih =>
    have stuck (next : σ) : ∃ e, unroll step n next [] = .error e ∧ e.category ≠ .data := by
      cases n with
      | zero => exact ⟨_, rfl, nofun⟩
      | succ n =>
        obtain ⟨e, isError, isForm⟩ := atEnd next
        exact ⟨e, by simp only [unroll, isError, Except.bind], isForm⟩
    refine (steady s).bind ?_ ?_ ?_
    · intro round
      cases round with
      | stop b => exact steady_const (.ok b)
      | go next f => exact (ih next).map f fun _ isOpen => isOpen
    · rintro round b rest isOpen read
      cases round with
      | stop b => exact isOpen.elim
      | go next f =>
        obtain ⟨e, isError, -⟩ := stuck next
        simp only [Round.continue, isError, Except.map] at read
        cases read
    · intro text more rest last round _ _ isOpen _ _ _
      cases round with
      | stop b => exact isOpen.elim
      | go next f =>
        obtain ⟨e, isError, isForm⟩ := stuck next
        simpa only [Round.continue, isError, Except.map] using formOnly_error isForm

/-- **A loop is steady if each of its steps is**, and what closes it is no number. -/
theorem steady_loop (step : σ → List Char → Outcome (Round σ β))
    (loop : σ → List Char → Outcome β)
    (unfolds : ∀ s text,
      loop s text = (step s text).bind fun (round, rest) => round.continue loop rest)
    (steady : ∀ s, Steady Round.GoesOn (step s))
    (uses : ∀ {s text rest round}, step s text = .ok (round, rest) → Rest text rest)
    (atEnd : ∀ s, ∃ e, step s [] = .error e ∧ e.category ≠ .data) (s : σ) :
    Steady Closed (loop s) := by
  have unrolled (n : Nat) := steady_unroll steady atEnd n s
  have same {n : Nat} {text : List Char} (fits : text.length < n) :
      loop s text = unroll step n s text := loop_eq_unroll unfolds uses fits s
  have fits (text more : List Char) : text.length < (text ++ more).length + 1 := by
    rw [List.length_append]
    omega
  constructor
  · intro text rest b read
    rw [same (Nat.lt_succ_self _)] at read
    exact (unrolled _).suffix read
  · intro text rest more b read ends
    rw [same (fits text more)] at read
    rw [same (Nat.lt_succ_self _)]
    exact (unrolled _).extend read ends
  · intro text rest more b read
    rw [same (Nat.lt_succ_self _)] at read
    rw [same (fits text more)]
    exact (unrolled _).cut read
  · intro text rest more b read
    rw [same (Nat.lt_succ_self _)] at read
    rw [same (fits text more)]
    exact (unrolled _).torn read

end Loop

/-! ## Single reads -/

/-- What reads by a grammar is steady: the texts that it uses, each of some kind, and what may
follow a text of that kind. -/
theorem steady_of_iff {ι : Type} (Uses : ι → List Char → α → Prop) (Ends : ι → List Char → Prop)
    {read : List Char → Outcome α}
    (iff : ∀ {text rest a}, read text = .ok (a, rest) ↔
      ∃ i used, text = used ++ rest ∧ Uses i used a ∧ Ends i rest)
    (of_append : ∀ {i rest more}, Ends i (rest ++ more) → Ends i rest)
    (append : ∀ {i a rest more}, Ends i rest → (rest = [] → P a → Separated more) →
      Ends i (rest ++ more))
    (isForm : ∀ text, FormOnly (read text)) : Steady P read where
  suffix isRead := by
    obtain ⟨i, used, rfl, -, -⟩ := iff.1 isRead
    exact List.suffix_append used _
  extend isRead separated := by
    obtain ⟨i, used, rfl, uses, ends⟩ := iff.1 isRead
    exact iff.2 ⟨i, used, List.append_assoc .., uses, append ends separated⟩
  cut isRead := by
    obtain ⟨i, used, isText, uses, ends⟩ := iff.1 isRead
    rw [← List.append_assoc] at isText
    exact iff.2 ⟨i, used, List.append_cancel_right isText, uses, of_append ends⟩
  torn _ := isForm _

/-- What reads by a grammar whose texts have an end of their own is steady. -/
theorem steady_of_iff_closed (Uses : List Char → α → Prop) {read : List Char → Outcome α}
    (iff : ∀ {text rest a}, read text = .ok (a, rest) ↔ ∃ used, text = used ++ rest ∧ Uses used a)
    (isForm : ∀ text, FormOnly (read text)) : Steady Closed read :=
  steady_of_iff (fun _ : Unit => Uses) (fun _ _ => True)
    (by
      intro text rest a
      rw [iff]
      simp)
    (fun _ => trivial) (fun _ _ => trivial) isForm

/-- What only passes over a text, as a read of nothing. -/
def passing (pass : List Char → Except ReadError (List Char)) (text : List Char) : Outcome Unit :=
  (pass text).map fun rest => ((), rest)

theorem passing_eq_ok_iff {pass : List Char → Except ReadError (List Char)}
    {text rest : List Char} : passing pass text = .ok ((), rest) ↔ pass text = .ok rest := by
  simp [passing, map_eq_ok]

theorem Steady.passing_map {pass : List Char → Except ReadError (List Char)} {R : Unit → Prop}
    (steady : Steady R (passing pass)) (a : α) (kept : R () → P a) :
    Steady P fun text => (pass text).map fun rest => (a, rest) := by
  have mapped : Steady P fun text => (passing pass text).map fun ((), rest) => (a, rest) :=
    steady.map (fun _ => a) fun _ => kept
  have same (text : List Char) : ((passing pass text).map fun ((), rest) => (a, rest)) =
      (pass text).map fun rest => (a, rest) := by
    rw [passing]
    cases pass text <;> rfl
  rwa [funext same] at mapped

theorem Steady.passing_bind {pass : List Char → Except ReadError (List Char)}
    {read : List Char → Outcome β} (first : Steady Closed (passing pass)) (second : Steady Q read) :
    Steady Q fun text => (pass text).bind read := by
  have both : Steady Q fun text => (passing pass text).bind fun ((), rest) => read rest :=
    first.bind_closed fun _ => second
  have same (text : List Char) : ((passing pass text).bind fun ((), rest) => read rest) =
      (pass text).bind read := by
    rw [passing]
    cases pass text <;> rfl
  rwa [funext same] at both

/-- The first character that is no blank. -/
def ahead (atEnd : ReadError) (text : List Char) : Outcome Char :=
  match skipBlanks text with
  | [] => .error atEnd
  | c :: rest => .ok (c, rest)

theorem ahead_eq_ok_iff {atEnd : ReadError} {text rest : List Char} {c : Char} :
    ahead atEnd text = .ok (c, rest) ↔ skipBlanks text = c :: rest := by
  unfold ahead
  split
  · rename_i isNil
    simp [isNil]
  · rename_i d more front
    simp [front]

theorem ahead_steady {atEnd : ReadError} (isForm : atEnd.category ≠ .data) :
    Steady Closed (ahead atEnd) := by
  refine steady_of_iff_closed
    (fun used c => ∃ blanks, used = blanks ++ [c] ∧ Blanks blanks ∧ isBlank c = false) ?_ ?_
  · intro text rest c
    rw [ahead_eq_ok_iff, skipBlanks_eq_cons_iff]
    constructor
    · rintro ⟨blanks, rfl, isBlanks, notBlank⟩
      exact ⟨blanks ++ [c], by simp, blanks, rfl, isBlanks, notBlank⟩
    · rintro ⟨_, rfl, blanks, rfl, isBlanks, notBlank⟩
      exact ⟨blanks, by simp, isBlanks, notBlank⟩
  · intro text
    unfold ahead
    split
    · exact formOnly_error isForm
    · exact formOnly_ok _

theorem readWord_steady (word : List Char) : Steady Closed (passing (readWord word)) := by
  refine steady_of_iff_closed (fun used _ => used = word) ?_ ?_
  · rintro text rest ⟨⟩
    rw [passing_eq_ok_iff]
    constructor
    · intro read
      exact ⟨word, eq_append_of_readWord read, rfl⟩
    · rintro ⟨_, rfl, rfl⟩
      exact readWord_append _ rest
  · exact fun text => (readWord_formOnly word text).map _

theorem readString_steady : Steady Closed readString := by
  refine steady_of_iff_closed
    (fun used s => ∃ body, used = body ++ ['"'] ∧ Spells body s.toList) ?_
    readString_formOnly
  intro text rest s
  rw [readString_eq_ok_iff]
  constructor
  · rintro ⟨body, rfl, spells⟩
    exact ⟨body ++ ['"'], by simp, body, rfl, spells⟩
  · rintro ⟨_, rfl, body, rfl, spells⟩
    exact ⟨body, by simp, spells⟩

theorem readNumber_steady : Steady OpenEnded readNumber := by
  refine steady_of_iff (fun n used value => IsNumeral used n ∧ n.number? = some value)
    NumeralEnds ?_ NumeralEnds.of_append ?_ readNumber_formOnly
  · intro text rest value
    rw [readNumber_eq_ok_iff]
    constructor
    · rintro ⟨written, n, isText, isNumeral, ends, isValue⟩
      exact ⟨n, written, isText, ⟨isNumeral, isValue⟩, ends⟩
    · rintro ⟨n, written, isText, ⟨isNumeral, isValue⟩, ends⟩
      exact ⟨written, n, isText, isNumeral, ends, isValue⟩
  · exact fun ends separated => ends.append fun isNil => separated isNil trivial

/-- What looks at the first character that is no blank is steady, if it is for each character. -/
theorem steady_ahead {atEnd : ReadError} (isForm : atEnd.category ≠ .data)
    {f : List Char → Outcome α} (g : Char → List Char → Outcome α)
    (looks : ∀ text, f text =
      match skipBlanks text with
      | [] => .error atEnd
      | c :: rest => g c rest)
    (steady : ∀ c, Steady P (g c)) : Steady P f := by
  have same (text : List Char) : f text = (ahead atEnd text).bind fun (c, rest) => g c rest := by
    rw [looks, ahead]
    cases skipBlanks text <;> rfl
  rw [funext same]
  exact (ahead_steady isForm).bind_closed steady

theorem readColon_steady : Steady Closed (passing readColon) := by
  have atEnd : (ReadError.ended .object).category ≠ .data := nofun
  refine steady_ahead atEnd (fun c rest => if c = ':' then .ok ((), rest) else .error .expectedColon)
    ?_ ?_
  · intro text
    rw [passing, readColon]
    cases skipBlanks text with
    | nil => rfl
    | cons c rest => by_cases isColon : c = ':' <;> simp [isColon, Except.map]
  · intro c
    exact steady_ite (fun _ => steady_const (.ok ())) fun _ => steady_error fun _ => .expectedColon

theorem skip_steady : Steady OpenEnded (passing skip) := by
  refine steady_of_iff
    (fun value used _ => ∃ blanks, used = blanks ++ value ∧ Blanks blanks ∧ IsValue value)
    ValueEnds ?_ ?_ ?_ ?_
  · rintro text rest ⟨⟩
    rw [passing_eq_ok_iff, skip_eq_ok_iff]
    constructor
    · rintro ⟨blanks, value, rfl, isBlanks, isValue, ends⟩
      exact ⟨value, blanks ++ value, by simp, ⟨blanks, rfl, isBlanks, isValue⟩, ends⟩
    · rintro ⟨value, _, rfl, ⟨blanks, rfl, isBlanks, isValue⟩, ends⟩
      exact ⟨blanks, value, by simp, isBlanks, isValue, ends⟩
  · exact fun ends n isNumeral => (ends n isNumeral).of_append
  · exact fun ends separated n isNumeral =>
      (ends n isNumeral).append fun isNil => separated isNil trivial
  · exact fun text => (skip_formOnly text).map _

end Steady

end WalletView.Json
