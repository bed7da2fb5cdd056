/-! Widths of the integers that a trace record holds. -/
namespace TraceLayout

/-- Width of a fixed-size integer: 8, 16, 32 or 64 bits. -/
inductive Width
  | w8 | w16 | w32 | w64
  deriving DecidableEq, Repr

namespace Width

def all : List Width := [.w8, .w16, .w32, .w64]

def bytes : Width → Nat
  | .w8 => 1
  | .w16 => 2
  | .w32 => 4
  | .w64 => 8

def bits (width : Width) : Nat := width.bytes * 8

/-- The width of an integer that takes `size` bytes, if it is one of the four. -/
def ofBytes? : Nat → Option Width
  | 1 => some .w8
  | 2 => some .w16
  | 4 => some .w32
  | 8 => some .w64
  | _ => none

/-- Widths are ordered by the number of bytes. -/
instance : LE Width := ⟨fun a b => a.bytes ≤ b.bytes⟩

instance : LT Width := ⟨fun a b => a.bytes < b.bytes⟩

instance (a b : Width) : Decidable (a ≤ b) := inferInstanceAs (Decidable (a.bytes ≤ b.bytes))

instance (a b : Width) : Decidable (a < b) := inferInstanceAs (Decidable (a.bytes < b.bytes))

def text (width : Width) : String := toString width.bits

def key : Width → String
  | .w8 => "W8"
  | .w16 => "W16"
  | .w32 => "W32"
  | .w64 => "W64"

theorem ofBytes?_eq_some_iff {size : Nat} {width : Width} :
    ofBytes? size = some width ↔ size = width.bytes := by
  constructor
  · intro h
    unfold ofBytes? at h
    split at h <;> simp_all [bytes] <;> subst h <;> rfl
  · rintro rfl
    cases width <;> rfl

end TraceLayout.Width
