/-
# Proofs.Exposure.Keyrings — the keyrings tell addresses apart

The keyrings are gone through as one list, so only what they list one after another counts, not how
it is divided into keyrings.  In that list:

* matching addresses have one place (`keyringPlace_congr`);
* addresses with one place match, unless it is nowhere (`addressesMatch_of_keyringPlace_eq`);
* the place is nowhere when no keyring lists a match (`keyringPlace_eq_unlisted_iff`), and is else
  how many addresses are listed before the first one (`keyringPlace_eq_listed_iff`).

The place of an address in keyrings that fit a memory is one that a machine word stands for, and is
the greatest word only when it is nowhere.
-/
import WalletView.Proofs.Exposure.KeyOrder
import WalletView.Proofs.Exposure.Place
import WalletView.Proofs.Text.Ascii

set_option autoImplicit false

namespace WalletView

/-- Matching is an equivalence. -/
theorem addressesMatch_equivalence :
    Equivalence fun a b : Address => addressesMatch a b = true where
  refl := Text.matchesAnyCase_refl
  symm same := addressesMatch_iff.2 (addressesMatch_iff.1 same).symm
  trans ab bc := addressesMatch_iff.2 ((addressesMatch_iff.1 ab).trans (addressesMatch_iff.1 bc))

/-- Some keyring lists an address, up to its casing. -/
def IsInKeyrings (keyrings : List KeyringGroup) (address : Address) : Prop :=
  ∃ group ∈ keyrings, ∃ listed ∈ group.accounts, addressesMatch listed address = true

section Places

variable {keyrings others : List KeyringGroup} {a b : Address}

theorem keyringPlace_congr (same : addressesMatch a b = true) :
    keyringPlace keyrings a = keyringPlace keyrings b :=
  placeIn_congr same _

/-- Addresses with one place in the keyrings match, unless that place is nowhere. -/
theorem addressesMatch_of_keyringPlace_eq (same : keyringPlace keyrings a = keyringPlace keyrings b)
    (isListed : keyringPlace keyrings a ≠ .unlisted) : addressesMatch a b = true :=
  addressesMatch_of_placeIn_eq same isListed

/-- An address is nowhere just if no keyring lists it. -/
theorem keyringPlace_eq_unlisted_iff :
    keyringPlace keyrings a = .unlisted ↔ ¬IsInKeyrings keyrings a := by
  rw [keyringPlace_eq, placeIn_eq_unlisted_iff, not_iff_not]
  constructor
  · rintro ⟨listed, member, same⟩
    obtain ⟨group, isGroup, isListed⟩ := List.mem_flatMap.1 member
    exact ⟨group, isGroup, listed, isListed, same⟩
  · rintro ⟨group, isGroup, listed, isListed, same⟩
    exact ⟨listed, List.mem_flatMap.2 ⟨group, isGroup, isListed⟩, same⟩

theorem keyringPlace_eq_listed_iff {before : Nat} :
    keyringPlace keyrings a = .listed before ↔
      IsFirstMatch (keyrings.flatMap KeyringGroup.accounts) a before :=
  placeIn_eq_listed_iff

/-- How addresses are divided into keyrings does not matter. -/
theorem keyringPlace_eq_of_flatMap_eq
    (same : keyrings.flatMap KeyringGroup.accounts = others.flatMap KeyringGroup.accounts) :
    keyringPlace keyrings a = keyringPlace others a := by
  rw [keyringPlace_eq, keyringPlace_eq, same]

/-- A place in fewer addresses than there are words is one that a word stands for. -/
theorem exists_ofWord_eq_keyringPlace
    (fits : (keyrings.flatMap KeyringGroup.accounts).length < UInt64.size) :
    ∃ w, KeyringPlace.ofWord w = keyringPlace keyrings a := by
  apply KeyringPlace.exists_ofWord
  intro before place
  obtain ⟨front, first, back, split, length, -⟩ := keyringPlace_eq_listed_iff.1 place
  rw [split] at fits
  simp only [List.length_append, List.length_cons] at fits
  omega

end Places

/-- **Places in the keyrings tell addresses apart.**  Matching is an equivalence, and compares texts
character by character, those beyond ASCII for what they are.  Addresses that match have one place
in the keyrings, and addresses with one place match unless it is nowhere.  It is nowhere just if no
keyring lists a match, and else it is how many addresses the keyrings list, one after another, before
the first match; so it is the same for all keyrings that list the same addresses in a row.  And a
machine word can stand for it as long as there are as many words. -/
theorem keyringPlace_tells_addresses :
    (Equivalence fun a b : Address => addressesMatch a b = true) ∧
    (∀ a b : Address, addressesMatch a b = true ↔
      List.Forall₂ Text.SameButForCase a.toList b.toList) ∧
    ∀ keyrings : List KeyringGroup,
      (∀ a b, addressesMatch a b = true → keyringPlace keyrings a = keyringPlace keyrings b) ∧
      (∀ a b, keyringPlace keyrings a = keyringPlace keyrings b →
        keyringPlace keyrings a ≠ .unlisted → addressesMatch a b = true) ∧
      (∀ a, keyringPlace keyrings a = .unlisted ↔ ¬IsInKeyrings keyrings a) ∧
      (∀ a before, keyringPlace keyrings a = .listed before ↔
        IsFirstMatch (keyrings.flatMap KeyringGroup.accounts) a before) ∧
      (∀ others : List KeyringGroup,
        keyrings.flatMap KeyringGroup.accounts = others.flatMap KeyringGroup.accounts →
          ∀ a, keyringPlace keyrings a = keyringPlace others a) ∧
      ((keyrings.flatMap KeyringGroup.accounts).length < UInt64.size →
        ∀ a, ∃ w, KeyringPlace.ofWord w = keyringPlace keyrings a) := by
  refine ⟨addressesMatch_equivalence, fun _ _ => Text.matchesAnyCase_iff_forall₂, ?_⟩
  intro keyrings
  refine ⟨?_, ?_, ?_, ?_, ?_, ?_⟩
  · intro a b same
    exact keyringPlace_congr same
  · intro a b same isListed
    exact addressesMatch_of_keyringPlace_eq same isListed
  · intro a
    exact keyringPlace_eq_unlisted_iff
  · intro a before
    exact keyringPlace_eq_listed_iff
  · intro others same a
    exact keyringPlace_eq_of_flatMap_eq same
  · intro fits a
    exact exists_ofWord_eq_keyringPlace fits

end WalletView
