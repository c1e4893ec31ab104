import Misaka.StateDirectory

/-!
State that is kept in two files, one written after the other. A call that stops
between the two leaves the first file alone. The second file is never there without
the first, and then the two fit; this holds after every call and at every point of
it, for several such pairs in one directory.
-/

namespace Misaka.FilePairs
open EffectTask StateDirectory

structure FilePair where
  first : String
  second : String
  fits : List UInt8 → List UInt8 → Prop

def FilePair.names (pair : FilePair) : List String := [pair.first, pair.second]

def Ordered (directory : Directory) (pair : FilePair) : Prop :=
  ∀ later, directory pair.second = some later →
    ∃ earlier, directory pair.first = some earlier ∧ pair.fits earlier later

def Whole (directory : Directory) (pair : FilePair) : Prop :=
  (directory pair.first).isSome = (directory pair.second).isSome

-- No file that is there is changed.
def Kept (before after : Directory) : Prop :=
  ∀ name bytes, before name = some bytes → after name = some bytes

variable {before : Directory} {pair other : FilePair} {earlier later bytes : List UInt8}
variable {name : String}

theorem ordered_elsewhere (outside : name ∉ pair.names) (ordered : Ordered before pair) :
    Ordered (before.put name bytes) pair := by
  have first : pair.first ≠ name := fun same => outside (same ▸ List.mem_cons_self)
  have second : pair.second ≠ name := fun same =>
    outside (same ▸ List.mem_cons_of_mem _ List.mem_cons_self)
  intro later held
  rw [put_other second] at held
  rw [put_other first]
  exact ordered later held

theorem ordered_first (distinct : pair.second ≠ pair.first) (absent : before pair.second = none) :
    Ordered (before.put pair.first earlier) pair := by
  intro later held
  rw [put_other distinct, absent] at held
  cases held

theorem ordered_both (distinct : pair.second ≠ pair.first) (fits : pair.fits earlier later) :
    Ordered ((before.put pair.first earlier).put pair.second later) pair := by
  intro found held
  rw [put_self] at held
  obtain rfl := Option.some.inj held
  refine ⟨earlier, ?_, fits⟩
  rw [put_other distinct.symm, put_self]

theorem kept_refl : Kept before before := fun _ _ held => held

theorem kept_put {middle : Directory} (kept : Kept before middle) (absent : before name = none) :
    Kept before (middle.put name bytes) := by
  intro file content held
  have different : file ≠ name := by
    rintro rfl
    cases absent.symm.trans held
  rw [put_other different]
  exact kept file content held

theorem whole_both (first : before pair.first = some earlier)
    (second : before pair.second = some later) : Whole before pair := by
  rw [Whole, first, second]
  rfl

theorem whole_neither (first : before pair.first = none) (second : before pair.second = none) :
    Whole before pair := by
  rw [Whole, first, second]

theorem not_whole_alone (first : before pair.first = some earlier)
    (second : before pair.second = none) : ¬ Whole before pair := by
  rw [Whole, first, second]
  exact Bool.noConfusion

theorem whole_absent (whole : Whole before pair) (absent : before pair.second = none) :
    before pair.first = none := by
  cases first : before pair.first with
  | none => rfl
  | some earlier => exact (not_whole_alone first absent whole).elim

/-- What is known of a directory with several such pairs while one of them is written. -/
structure Progress (pairs : List FilePair) (before : Directory) (pair : FilePair)
    (state : Directory) : Prop where
  ordered : ∀ other ∈ pairs, Ordered state other
  kept : Whole before pair → Kept before state

variable {Question : Type} {Reply : Question → Type} {Err Value : Type} {io : String → Err}
variable {replies : (question : Question) → Reply question → Prop} {pairs : List FilePair}

theorem progress_start (ordered : ∀ other ∈ pairs, Ordered before other) :
    Progress pairs before pair before := ⟨ordered, fun _ => kept_refl⟩

/-- Every point between and after the two writes. -/
theorem write_pair_progress (distinct : pair.second ≠ pair.first)
    (apart : ∀ other ∈ pairs, other = pair ∨ pair.first ∉ other.names ∧ pair.second ∉ other.names)
    (ordered : ∀ other ∈ pairs, Ordered before other) (absent : before pair.second = none)
    (fits : pair.fits earlier later) (value : Value) :
    Holds (Acts replies Faults.none) (fun state _ => Progress pairs before pair state)
      (do
        writeFile pair.first earlier io
        writeFile pair.second later io
        pure value)
      (fun after returned => returned = value ∧ Progress pairs before pair after ∧
        after = (before.put pair.first earlier).put pair.second later)
      (fun _ _ => False) before := by
  have half : Progress pairs before pair (before.put pair.first earlier) := by
    constructor
    · intro other member
      rcases apart other member with rfl | ⟨outside, _⟩
      · exact ordered_first distinct absent
      · exact ordered_elsewhere outside (ordered other member)
    · exact fun whole => kept_put kept_refl (whole_absent whole absent)
  have both : Progress pairs before pair
      ((before.put pair.first earlier).put pair.second later) := by
    constructor
    · intro other member
      rcases apart other member with rfl | ⟨_, outside⟩
      · exact ordered_both distinct fits
      · exact ordered_elsewhere outside (half.ordered other member)
    · exact fun whole => kept_put (half.kept whole) absent
  rw [holds_bind]
  apply holds_write_file
  case here => exact progress_start ordered
  case cut => exact fun _ _ never => never.elim
  rw [holds_bind]
  apply holds_write_file
  case here => exact half
  case cut => exact fun _ _ never => never.elim
  exact (holds_pure value).mpr ⟨rfl, both, rfl⟩
end Misaka.FilePairs
