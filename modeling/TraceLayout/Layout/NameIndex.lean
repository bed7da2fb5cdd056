/-! A finite map from names to slots, kept in the order of the names. The order makes the map
canonical: two indices that give every name the same slot are equal. -/
namespace TraceLayout

/-- Adds an entry to a list in the order of names, or replaces the slot of a name that is there. -/
def insertEntry (name : String) (slot : Nat) : List (String × Nat) → List (String × Nat)
  | [] => [(name, slot)]
  | entry :: entries =>
    if name < entry.1 then (name, slot) :: entry :: entries
    else if name = entry.1 then (name, slot) :: entries
    else entry :: insertEntry name slot entries

theorem mem_insertEntry {name : String} {slot : Nat} {entries : List (String × Nat)}
    {entry : String × Nat} (inserted : entry ∈ insertEntry name slot entries) :
    entry = (name, slot) ∨ entry ∈ entries := by
  induction entries with
  | nil => simpa [insertEntry] using inserted
  | cons first rest ih =>
    unfold insertEntry at inserted
    split at inserted
    · simpa using inserted
    · split at inserted
      · rcases List.mem_cons.mp inserted with here | there
        · exact .inl here
        · exact .inr (List.mem_cons_of_mem _ there)
      · rcases List.mem_cons.mp inserted with here | there
        · exact .inr (here ▸ List.mem_cons_self)
        · exact (ih there).imp_right (List.mem_cons_of_mem _)

theorem pairwise_insertEntry {name : String} {slot : Nat} {entries : List (String × Nat)}
    (ordered : entries.Pairwise (·.1 < ·.1)) :
    (insertEntry name slot entries).Pairwise (·.1 < ·.1) := by
  induction entries with
  | nil => simp [insertEntry]
  | cons first rest ih =>
    obtain ⟨below, ordered⟩ := List.pairwise_cons.mp ordered
    unfold insertEntry
    split
    · rename_i before
      refine List.pairwise_cons.mpr ⟨?_, List.pairwise_cons.mpr ⟨below, ordered⟩⟩
      intro entry member
      rcases List.mem_cons.mp member with here | there
      · exact here ▸ before
      · exact String.lt_trans before (below entry there)
    · split
      · rename_i same
        exact List.pairwise_cons.mpr ⟨fun entry member => same ▸ below entry member, ordered⟩
      · rename_i notBefore notSame
        refine List.pairwise_cons.mpr ⟨?_, ih ordered⟩
        intro entry member
        rcases mem_insertEntry member with here | there
        · subst here
          exact Std.lt_of_le_of_ne (String.not_lt.mp notBefore) (Ne.symm notSame)
        · exact below entry there

/-- A map from names to slots. -/
structure NameIndex where
  entries : List (String × Nat)
  ordered : entries.Pairwise (·.1 < ·.1)
  deriving DecidableEq

namespace NameIndex

instance : Repr NameIndex := ⟨fun index => reprPrec index.entries⟩

def empty : NameIndex := ⟨[], .nil⟩

def insert (index : NameIndex) (name : String) (slot : Nat) : NameIndex :=
  ⟨insertEntry name slot index.entries, pairwise_insertEntry index.ordered⟩

def get? (index : NameIndex) (name : String) : Option Nat :=
  (index.entries.find? (·.1 == name)).map (·.2)

def size (index : NameIndex) : Nat := index.entries.length

end TraceLayout.NameIndex
