/-
# Proofs.Json.Torn — what is cut off is not read

What starts with a bracket is read up to its closing bracket, and but for blanks nothing is behind it
(`Reader.Steady.exists_of_readAll`).  So no part of such a text is read that ends before the closing
bracket.  Nor is it taken for a text of the wrong shape, since reading is steady: the problem is that
the text ends, or that it is no JSON (`Reader.Steady.readAll_torn`).
-/
import WalletView.Proofs.Json.SteadyReader

set_option autoImplicit false

namespace WalletView.Json

namespace Reader

variable {α : Type} {r : Reader α}

/-- What a text that starts with a bracket is read from: the value, up to its closing bracket, and
blanks around it. -/
theorem Steady.exists_of_readAll (steady : r.Steady) {text : List Char} {a : α}
    (read : r.readAll text = .ok a) {bracket : Bracket} {more : List Char}
    (front : skipBlanks text = bracket.opening :: more) :
    ∃ blanks inside after, text = blanks ++ bracket.opening :: (inside ++ bracket.close :: after) ∧
      Blanks blanks ∧ Blanks after ∧ IsValue (bracket.opening :: (inside ++ [bracket.close])) := by
  obtain ⟨rest, run, isBlanks⟩ := readAll_eq_ok_iff.1 read
  obtain ⟨blanks, value, rfl, isBlanks', isValue, -⟩ := skip_eq_ok_iff.1 (steady.passes run)
  obtain ⟨c, behind, rfl, notBlank, -⟩ := isValue.exists_cons
  rw [skipBlanks_append isBlanks', List.cons_append, skipBlanks_cons notBlank] at front
  obtain ⟨rfl, -⟩ := List.cons.inj front
  obtain ⟨inside, rfl⟩ := isValue.exists_of_opening
  exact ⟨blanks, inside, rest, by simp, isBlanks', isBlanks, isValue⟩

/-- **What is cut off before its closing bracket is not read**, and what is wrong with it is its
form. -/
theorem Steady.readAll_torn (steady : r.Steady) {bracket : Bracket}
    {blanks inside after torn : List Char} {a : α} (isBlanks : Blanks blanks)
    (read : r.readAll (blanks ++ bracket.opening :: (inside ++ bracket.close :: after)) = .ok a)
    (isTorn : torn <+: blanks ++ bracket.opening :: inside) :
    ∃ e, r.readAll torn = .error e ∧ e.category ≠ .data := by
  obtain ⟨lost, isText⟩ := isTorn
  have isWhole : blanks ++ bracket.opening :: (inside ++ bracket.close :: after) =
      torn ++ (lost ++ bracket.close :: after) := by
    rw [← List.append_assoc, isText]
    simp
  obtain ⟨rest, run, isBlanks'⟩ := readAll_eq_ok_iff.1 read
  rw [isWhole] at run
  cases here : r.run torn with
  | error e => exact ⟨e, by rw [readAll, here]; rfl, steady.settled.torn run e here⟩
  | ok result =>
    -- Had the torn text been read, its value would be closed, so what was lost would be blank.
    obtain ⟨a', left⟩ := result
    obtain ⟨blanks', value, isTornText, isBlanks'', isValue, -⟩ :=
      skip_eq_ok_iff.1 (steady.passes here)
    obtain ⟨c, behind, rfl, notBlank, -⟩ := isValue.exists_cons
    have front := congrArg skipBlanks isWhole
    rw [isTornText, skipBlanks_append isBlanks, skipBlanks_cons bracket.notBlank_opening,
      List.append_assoc, skipBlanks_append isBlanks'', List.cons_append, List.cons_append,
      skipBlanks_cons notBlank] at front
    obtain ⟨rfl, -⟩ := List.cons.inj front
    have passed : skip (torn ++ (lost ++ bracket.close :: after)) =
        .ok (left ++ (lost ++ bracket.close :: after)) := by
      refine skip_eq_ok_iff.2 ⟨blanks', _, ?_, isBlanks'', isValue, ?_⟩
      · rw [isTornText, List.append_assoc, List.append_assoc]
      · exact valueEnds_of_cons bracket.startsNumber_opening behind _
    rw [steady.passes run] at passed
    cases passed
    have isBlank := isBlanks' bracket.close (by simp)
    rw [bracket.notBlank_close] at isBlank
    cases isBlank

end Reader

end WalletView.Json
