import TraceLayout.Kernel.KernelType

/-! An inferred type that reads as an integer reads as many bytes as the kernel reports, and with a
sign only where the kernel reports one. -/
namespace TraceLayout.KernelType

/-- What the integer that a field reads as owes to the size and the sign reported for it. -/
structure FitsReport (size : UInt16) (signed : Bool) (type : KernelType) : Prop where
  bytes : ∀ shape, type.intShape? = some shape → shape.width.bytes = size.toNat
  sign : ∀ shape, type.intShape? = some shape → shape.signed = true → signed = true

section
variable {size : UInt16} {signed : Bool} {type : KernelType}

theorem FitsReport.of_noShape (noShape : type.intShape? = none) : FitsReport size signed type := by
  constructor
  · intro shape reads
    simp [noShape] at reads
  · intro shape reads
    simp [noShape] at reads

theorem FitsReport.of_shape {shape : IntShape} (reads : type.intShape? = some shape)
    (bytes : shape.width.bytes = size.toNat) (sign : shape.signed = true → signed = true) :
    FitsReport size signed type := by
  constructor
  · intro other also
    obtain rfl : shape = other := Option.some.inj (reads.symm.trans also)
    exact bytes
  · intro other also
    obtain rfl : shape = other := Option.some.inj (reads.symm.trans also)
    exact sign

theorem fitsReport_of_extent {extent : List Char} (found : ofExtent? extent size = some type) :
    FitsReport size signed type := by
  unfold ofExtent? at found
  split at found
  · obtain rfl := Option.some.inj found
    exact .of_noShape rfl
  split at found
  · obtain rfl := Option.some.inj found
    exact .of_noShape rfl
  · contradiction

theorem fitsReport_of_pointee {pointee : List Char} (found : ofPointee? pointee size = some type) :
    FitsReport size signed type := by
  unfold ofPointee? at found
  split at found
  · obtain rfl := Option.some.inj found
    exact .of_noShape rfl
  split at found
  · rename_i four
    obtain rfl := Option.some.inj found
    exact .of_shape rfl (by rw [four]; rfl) (by simp)
  split at found
  · rename_i eight
    obtain rfl := Option.some.inj found
    exact .of_shape rfl (by rw [eight]; rfl) (by simp)
  · contradiction

theorem fitsReport_of_scalar {name : List Char} (found : ofScalar? name size signed = some type) :
    FitsReport size signed type := by
  unfold ofScalar? at found
  split at found
  · split at found
    · rename_i one
      obtain rfl := Option.some.inj found
      exact .of_shape rfl (by rw [one]; rfl) (by simp)
    · contradiction
  · obtain ⟨width, held, rfl⟩ := Option.map_eq_some_iff.mp found
    exact .of_shape rfl (Width.ofBytes?_eq_some_iff.mp held).symm (fun sign => sign)

theorem fitsReport_of_decl {decl : CDecl} (found : ofDecl? decl size signed = some type) :
    FitsReport size signed type := by
  unfold ofDecl? at found
  split at found
  · split at found
    · obtain rfl := Option.some.inj found
      exact .of_noShape rfl
    · contradiction
  split at found
  · exact fitsReport_of_pointee found
  split at found
  · split at found
    · exact fitsReport_of_extent found
    · contradiction
  · exact fitsReport_of_scalar found

theorem fitsReport_of_infer {declaration : String}
    (inferred : infer declaration size signed = some type) : FitsReport size signed type := by
  obtain ⟨decl, -, found⟩ := Option.bind_eq_some_iff.mp inferred
  exact fitsReport_of_decl found

end

end TraceLayout.KernelType
