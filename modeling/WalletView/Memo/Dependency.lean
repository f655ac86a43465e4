/-
# Memo.Dependency — the inputs a memory is kept under

The inputs of a memoized derivation have a shape: switches, words, sizes and texts, which are
compared by value; slices of a snapshot, which are compared by identity; and optional inputs and
tuples of up to five inputs, which are compared part by part.
-/
import WalletView.Memo.Shared

set_option autoImplicit false

namespace WalletView

/-- The shape of a derivation's inputs. -/
inductive Dependency : Type 1 where
  | flag
  | word
  | size
  | text
  | slice (α : Type)
  | optional (part : Dependency)
  | single (a : Dependency)
  | pair (a b : Dependency)
  | triple (a b c : Dependency)
  | quadruple (a b c d : Dependency)
  | quintuple (a b c d e : Dependency)

namespace Dependency

/-- The inputs of a shape. -/
abbrev Value : Dependency → Type
  | flag => Bool
  | word => UInt64
  | size => Nat
  | text => String
  | slice α => Shared α
  | optional part => Option part.Value
  | single a => a.Value
  | pair a b => a.Value × b.Value
  | triple a b c => a.Value × b.Value × c.Value
  | quadruple a b c d => a.Value × b.Value × c.Value × d.Value
  | quintuple a b c d e => a.Value × b.Value × c.Value × d.Value × e.Value

/-- What inputs of a shape look like once every slice is read. -/
abbrev Reading : Dependency → Type
  | flag => Bool
  | word => UInt64
  | size => Nat
  | text => String
  | slice α => α
  | optional part => Option part.Reading
  | single a => a.Reading
  | pair a b => a.Reading × b.Reading
  | triple a b c => a.Reading × b.Reading × c.Reading
  | quadruple a b c d => a.Reading × b.Reading × c.Reading × d.Reading
  | quintuple a b c d e => a.Reading × b.Reading × c.Reading × d.Reading × e.Reading

/-- Reads every slice of the inputs. -/
def read : (shape : Dependency) → shape.Value → shape.Reading
  | flag, b => b
  | word, w => w
  | size, n => n
  | text, s => s
  | slice _, x => x.value
  | optional _, none => none
  | optional part, some x => some (part.read x)
  | single a, x => a.read x
  | pair a b, (x, y) => (a.read x, b.read y)
  | triple a b c, (x, y, z) => (a.read x, b.read y, c.read z)
  | quadruple a b c d, (x, y, z, u) => (a.read x, b.read y, c.read z, d.read u)
  | quintuple a b c d e, (x, y, z, u, v) => (a.read x, b.read y, c.read z, d.read u, e.read v)

/-- Whether inputs are unchanged from earlier ones. -/
def unchanged : (shape : Dependency) → (current previous : shape.Value) → Bool
  | flag, x, y => x == y
  | word, x, y => x == y
  | size, x, y => x == y
  | text, x, y => x == y
  | slice _, x, y => x.sameAs y
  | optional _, none, none => true
  | optional part, some x, some y => part.unchanged x y
  | optional _, _, _ => false
  | single a, x, y => a.unchanged x y
  | pair a b, (x, y), (x', y') => a.unchanged x x' && b.unchanged y y'
  | triple a b c, (x, y, z), (x', y', z') =>
    a.unchanged x x' && b.unchanged y y' && c.unchanged z z'
  | quadruple a b c d, (x, y, z, u), (x', y', z', u') =>
    a.unchanged x x' && b.unchanged y y' && c.unchanged z z' && d.unchanged u u'
  | quintuple a b c d e, (x, y, z, u, v), (x', y', z', u', v') =>
    a.unchanged x x' && b.unchanged y y' && c.unchanged z z' && d.unchanged u u'
      && e.unchanged v v'

end Dependency

end WalletView
