/-
# Proofs.Wallet.Torn — a snapshot that is cut off is not read

Every slice of a snapshot may be missing, and so may most fields of its records.  All the same no
part of a snapshot's text is taken for a snapshot of its own: a snapshot is a list or an object
(`Snapshot.exists_opening_of_parse`), so it ends with its closing bracket, and what is cut off before
has not been closed.
-/
import WalletView.Proofs.Json.Torn
import WalletView.Proofs.Wallet.Steady

set_option autoImplicit false

namespace WalletView

namespace Snapshot

/-- A snapshot is read from an object or from a list. -/
theorem exists_opening_of_parse {text : String} {s : Snapshot Plain} (read : parse text = .ok s) :
    ∃ (bracket : Json.Bracket) (more : List Char),
      Json.skipBlanks text.toList = bracket.opening :: more := by
  obtain ⟨rest, run, -⟩ := Json.Reader.readAll_eq_ok_iff.1 (parse_eq_ok_iff.1 read)
  exact Json.Codec.exists_opening_of_record run

/-- **A snapshot that is cut off is not read.**  The text of a snapshot is a list or an object and
blanks around it, and no part of it that ends before the closing bracket is read: the text ends too
early, or it is no JSON, but it is not one of the wrong shape. -/
theorem parse_torn {text : String} {s : Snapshot Plain} (read : parse text = .ok s) :
    ∃ (bracket : Json.Bracket) (blanks inside after : List Char),
      text.toList = blanks ++ bracket.opening :: (inside ++ bracket.close :: after) ∧
        Json.Blanks blanks ∧ Json.Blanks after ∧
        Json.IsValue (bracket.opening :: (inside ++ [bracket.close])) ∧
        ∀ torn : String, torn.toList <+: blanks ++ bracket.opening :: inside →
          ∃ e, parse torn = .error (.malformed e) ∧
            (e.category = .eof ∨ e.category = .syntactic) := by
  have steady := codec_steady Json.greatestDepth
  obtain ⟨bracket, more, front⟩ := exists_opening_of_parse read
  have read := parse_eq_ok_iff.1 read
  obtain ⟨blanks, inside, after, isText, isBlanks, isBlanks', isValue⟩ :=
    steady.exists_of_readAll read front
  refine ⟨bracket, blanks, inside, after, isText, isBlanks, isBlanks', isValue, fun torn isTorn => ?_⟩
  rw [Json.Codec.parse, isText] at read
  obtain ⟨e, refused, isForm⟩ := steady.readAll_torn isBlanks read isTorn
  refine ⟨e, parse_eq_malformed refused, ?_⟩
  cases category : e.category with
  | eof => exact .inl rfl
  | syntactic => exact .inr rfl
  | data => exact absurd category isForm

/-- A keyring's object is cut off inside the text of an address. -/
theorem parse_torn_object :
    let text := "\x7b\"keyrings\":[\x7b\"accounts\":[\"0xab\",\"0xCD\"]\x7d]\x7d"
    let torn := "\x7b\"keyrings\":[\x7b\"accounts\":[\"0xab\",\"0x"
    let s : Snapshot Plain := { empty with keyrings := [⟨none, ["0xab", "0xCD"]⟩] }
    parse text = .ok s ∧
      ∃ e, parse torn = .error (.malformed e) ∧
        (e.category = .eof ∨ e.category = .syntactic) := by
  intro text torn s
  have read : parse text = .ok s := by
    subst text
    with_unfolding_all rfl
  refine ⟨read, ?_⟩
  obtain ⟨bracket, blanks, inside, after, isText, -, isBlanks, -, refuses⟩ := parse_torn read
  refine refuses torn ?_
  -- Nothing follows the bracket, since what does is blank and the last character is not.
  have notBlank : text.toList.getLast? = some '\x7d' := by decide
  rcases List.eq_nil_or_concat after with rfl | ⟨init, c, rfl⟩
  · have isFront := congrArg List.dropLast isText
    rw [← List.cons_append, ← List.append_assoc, List.dropLast_concat] at isFront
    rw [← isFront]
    decide
  · have isBlank := isBlanks c (by simp)
    have regroup : blanks ++ bracket.opening :: (inside ++ bracket.close :: init.concat c) =
        (blanks ++ bracket.opening :: (inside ++ bracket.close :: init)) ++ [c] := by simp
    rw [isText, regroup, List.getLast?_concat] at notBlank
    cases notBlank
    exact absurd isBlank (by decide)

end Snapshot

end WalletView
