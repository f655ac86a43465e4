/-
# Proofs.Json.Faithful — codecs that lose nothing

A codec loses nothing when no two values are written as one.  A record may leave out a field, and
nothing stands in its place; what keeps two records apart is that a field is named where it is
written, that no other has its name, and that what is not written of a field is always the same
(`Field.Tells`).  So records whose fields are told are told themselves, field by field
(`Fields.members_injective`).
-/
import WalletView.Proofs.Json.Record

set_option autoImplicit false

namespace WalletView.Json

/-- An optional part is told from `null`, and from any other. -/
theorem ofOption_injective {α : Type} {write : α → Json} (injective : Function.Injective write)
    (notNull : ∀ a, write a ≠ .null) : Function.Injective (ofOption write) := by
  intro value other same
  cases value with
  | none =>
    cases other with
    | none => rfl
    | some b => exact absurd same.symm (notNull b)
  | some a =>
    cases other with
    | none => exact absurd same (notNull a)
    | some b => exact congrArg some (injective same)

namespace Codec

variable {α β : Type}

theorem string_encode_injective : Function.Injective string.encode :=
  fun _ _ => Json.string.inj

theorem boolean_encode_injective : Function.Injective boolean.encode :=
  fun _ _ => Json.bool.inj

theorem word_encode_injective : Function.Injective word.encode := by
  intro v w same
  have value := Number.integer.inj (Json.number.inj same)
  exact UInt64.toNat_inj.1 (Int.ofNat.inj value)

theorem any_encode_injective : Function.Injective any.encode :=
  Function.injective_id

theorem via_encode_injective {c : Codec α} {ofRaw : α → β} {toRaw : β → α}
    (injective : Function.Injective c.encode) (made : ∀ b, ofRaw (toRaw b) = b) :
    Function.Injective (c.via ofRaw toRaw).encode :=
  injective.comp (Function.LeftInverse.injective made)

theorem cases_encode_injective {ofName : String → α} {name : α → String}
    (named : ∀ a, ofName (name a) = a) : Function.Injective (cases ofName name).encode :=
  string_encode_injective.comp (Function.LeftInverse.injective named)

end Codec

/-! ## Fields -/

/-- A field whose value is told by what is written of it, and by its being left out. -/
structure Field.Tells {α : Type} (field : Field α) : Prop where
  written : ∀ a b, field.isWritten a = true → field.isWritten b = true →
    field.codec.encode a = field.codec.encode b → a = b
  unwritten : ∀ a b, field.isWritten a = false → field.isWritten b = false → a = b

namespace Field

variable {α : Type} {codec : Codec α} (name : String)

theorem required_tells (injective : Function.Injective codec.encode) :
    (required name codec).Tells where
  written _ _ _ _ same := injective same
  unwritten := nofun

theorem withDefault_tells (injective : Function.Injective codec.encode) (whenMissing : α) :
    (withDefault name codec whenMissing).Tells where
  written _ _ _ _ same := injective same
  unwritten := nofun

/-- An optional field is left out rather than written as `null`, so its codec may write `null`
itself. -/
theorem optional_tells (injective : Function.Injective codec.encode) :
    (optional name codec).Tells where
  written
    | some _, some _, _, _, same => congrArg some (injective same)
  unwritten
    | none, none, _, _ => rfl

end Field

namespace Fields

variable {types : List Type} {fields : Fields types}

/-- Every field is told. -/
def Tells : {types : List Type} → Fields types → Prop
  | _, .nil => True
  | _, .cons field more => field.Tells ∧ more.Tells

section Cons

variable {α : Type} {field : Field α} {more : Fields types} {a : α} (row : Row types)

theorem members_of_written (written : field.isWritten a = true) :
    (cons field more).members (a, row) =
      (field.name, field.codec.encode a) :: more.members row :=
  if_pos written

theorem members_of_unwritten (unwritten : field.isWritten a = false) :
    (cons field more).members (a, row) = more.members row :=
  if_neg (Bool.eq_false_iff.1 unwritten)

end Cons

theorem mem_names_of_mem_members {row : Row types} {member : String × Json}
    (isMember : member ∈ fields.members row) : member.1 ∈ fields.names := by
  induction fields with
  | nil => cases isMember
  | cons field more ih =>
    obtain ⟨a, row⟩ := row
    cases written : field.isWritten a with
    | true =>
      rw [members_of_written row written] at isMember
      rcases List.mem_cons.1 isMember with rfl | isMember
      · exact List.mem_cons_self
      · exact List.mem_cons_of_mem _ (ih isMember)
    | false =>
      rw [members_of_unwritten row written] at isMember
      exact List.mem_cons_of_mem _ (ih isMember)

/-- **The members of a record tell its fields**: the first member is the first field's, or that
field is left out, since no later field has its name. -/
theorem members_injective (tells : fields.Tells) (distinct : fields.names.Nodup) :
    Function.Injective fields.members := by
  induction fields with
  | nil => intro row other _; rfl
  | cons field more ih =>
    rintro ⟨a, row⟩ ⟨b, other⟩ same
    obtain ⟨isTold, tellsMore⟩ := tells
    obtain ⟨fresh, distinctMore⟩ := List.nodup_cons.1 distinct
    have notMore (value : Json) (others : List (String × Json)) (row : Row _) :
        (field.name, value) :: others ≠ more.members row := by
      intro same
      exact fresh (mem_names_of_mem_members (same ▸ List.mem_cons_self))
    cases writtenA : field.isWritten a with
    | true =>
      rw [members_of_written row writtenA] at same
      cases writtenB : field.isWritten b with
      | true =>
        rw [members_of_written other writtenB] at same
        obtain ⟨head, others⟩ := List.cons.inj same
        obtain rfl := isTold.written a b writtenA writtenB (Prod.mk.inj head).2
        rw [ih tellsMore distinctMore others]
      | false =>
        rw [members_of_unwritten other writtenB] at same
        exact absurd same (notMore _ _ _)
    | false =>
      rw [members_of_unwritten row writtenA] at same
      cases writtenB : field.isWritten b with
      | true =>
        rw [members_of_written other writtenB] at same
        exact absurd same.symm (notMore _ _ _)
      | false =>
        rw [members_of_unwritten other writtenB] at same
        obtain rfl := isTold.unwritten a b writtenA writtenB
        rw [ih tellsMore distinctMore same]

end Fields

/-- **A record's codec loses nothing if its fields are told**, no two have one name, and the record
is made of its parts. -/
theorem Codec.record_encode_injective {α : Type} {types : List Type} {name : String}
    {fields : Fields types} {build : Row types → α} {parts : α → Row types}
    (tells : fields.Tells) (distinct : fields.names.Nodup) (made : ∀ a, build (parts a) = a) :
    Function.Injective (record name fields build parts).encode := by
  intro a b same
  have kept : Function.Injective parts := Function.LeftInverse.injective made
  exact kept (Fields.members_injective tells distinct (Json.object.inj same))

end WalletView.Json
