import BundleWatch.Text.Utf8

/-!
# Shapes of byte sequences

What a glob means: a shape that a whole sequence of bytes has or lacks. A sequence is read byte by
byte; what is still to come after a byte is again a list of shapes.
-/

set_option autoImplicit false

namespace BundleWatch.Glob

structure ByteSet where
  negated : Bool
  intervals : List (UInt8 × UInt8)
deriving DecidableEq, Inhabited

namespace ByteSet

def contains (s : ByteSet) (b : UInt8) : Bool :=
  (s.intervals.any fun p => p.1 ≤ b && b ≤ p.2) != s.negated

def singleton (b : UInt8) : ByteSet := ⟨false, [(b, b)]⟩

def all : ByteSet := ⟨true, []⟩

end ByteSet

inductive Shape
  | blank
  | byte (s : ByteSet)
  | anything
  | seq (a b : Shape)
  | alt (a b : Shape)
deriving DecidableEq, Inhabited

namespace Shape

def concat (ss : List Shape) : Shape := ss.foldr .seq .blank

def oneOf (s : Shape) : List Shape → Shape
  | [] => s
  | t :: ts => .alt s (oneOf t ts)

def ofBytes (bs : Bytes) : Shape := concat (bs.map fun b => .byte (.singleton b))

def acceptsEmpty : Shape → Bool
  | .blank => true
  | .byte _ => false
  | .anything => true
  | .seq a b => a.acceptsEmpty && b.acceptsEmpty
  | .alt a b => a.acceptsEmpty || b.acceptsEmpty

def after (b : UInt8) : Shape → List Shape
  | .blank => []
  | .byte s => if s.contains b then [.blank] else []
  | .anything => [.anything]
  | .seq s t => (s.after b).map (.seq · t) ++ (if s.acceptsEmpty then t.after b else [])
  | .alt s t => s.after b ++ t.after b

def anyAccepts : List Shape → Bytes → Bool
  | ss, [] => ss.any acceptsEmpty
  | ss, b :: bs => anyAccepts (ss.flatMap (·.after b)).eraseDups bs

def accepts (s : Shape) (bs : Bytes) : Bool := anyAccepts [s] bs

end Shape

end BundleWatch.Glob
