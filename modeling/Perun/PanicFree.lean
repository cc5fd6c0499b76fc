import Perun.AbiEncode

/-! The aborts of the serializer are out of reach. A tree whose encoding fits in a `usize`
goes through `to_writer` with every addition, subtraction and size pass in range, and the
sentinel offset that a static member is given is neither written nor added to. -/
namespace Perun.PanicFree
open Ser Passes AbiErrors AbiEncode
variable {build : Build}

/-- What a static tree writes does not depend on the offset that it is given. -/
theorem static_head_slots (value : Value) (static : isDynamic value = false)
    (offset offset' : Nat) : headSlots build offset value = headSlots build offset' value := by
  have among (reduction : Nat) (fields : List Value) (static : fieldsDynamic fields = false) :
      fieldsHeadSlots build reduction offset fields =
        fieldsHeadSlots build reduction offset' fields := by
    induction fields with
    | nil => rfl
    | cons field rest ih =>
        simp only [fieldsDynamic, Bool.or_eq_false_iff] at static
        simp only [fieldsHeadSlots, static.1.1, Bool.false_eq_true, ↓reduceIte, ih static.2]
  cases value with
  | scalar v => rfl
  | str v => rfl
  | bytes v => rfl
  | unitStruct name => rfl
  | newtypeStruct inner =>
      simp only [isDynamic, Bool.or_eq_false_iff] at static
      simp only [headSlots, static.1, Bool.false_eq_true, ↓reduceIte]
  | seq length elements => cases static
  | compound kind fields => exact among 0 fields static
  | unsupported kind payload => rfl

/-! The nodes of a tree inherit its conditions. -/
section Nodes

theorem field_total {field : Value} {fields : List Value} (member : field ∈ fields) :
    totalSize field ≤ fieldsHeadSize fields + fieldsTailSize fields := by
  induction fields with
  | nil => cases member
  | cons first rest ih =>
      rcases List.mem_cons.mp member with same | later
      · rw [same]
        exact total_le_fields first rest
      · exact Nat.le_trans (ih later) (rest_le_fields first rest)

/-- A tree that can be written, of at most the given size. -/
structure Writable (build : Build) (bound : Nat) (value : Value) : Prop where
  clean : firstError value = none
  lengths : announced build value = true
  small : totalSize value ≤ bound

theorem fields_writable {bound : Nat} {fields : List Value} (clean : firstErrorAmong fields = none)
    (lengths : allAnnounced build fields = true)
    (small : fieldsHeadSize fields + fieldsTailSize fields ≤ bound) :
    ∀ field ∈ fields, Writable build bound field := by
  have parts : ∀ field ∈ fields, firstError field = none ∧ announced build field = true := by
    clear small
    induction fields with
    | nil =>
        intro field member
        cases member
    | cons first rest ih =>
        have cleaned := (first_error_cons first rest).mp clean
        have measured := (announced_cons first rest).mp lengths
        exact List.forall_mem_cons.mpr ⟨⟨cleaned.1, measured.1⟩, ih cleaned.2 measured.2⟩
  intro field member
  exact ⟨(parts field member).1, (parts field member).2, Nat.le_trans (field_total member) small⟩

theorem nodes_of_mem {node : Value} {fields : List Value} (member : node ∈ nodesOf fields) :
    ∃ field ∈ fields, node ∈ nodes field := by
  induction fields with
  | nil => cases member
  | cons first rest ih =>
      rw [nodesOf] at member
      rcases List.mem_append.mp member with inFirst | inRest
      · exact ⟨first, List.mem_cons_self, inFirst⟩
      · obtain ⟨field, inside, deeper⟩ := ih inRest
        exact ⟨field, List.mem_cons_of_mem first inside, deeper⟩

theorem nodes_writable {bound : Nat} (value : Value) (writable : Writable build bound value) :
    ∀ node ∈ nodes value, Writable build bound node := by
  have leaf {value : Value} (writable : Writable build bound value) :
      ∀ node ∈ [value], Writable build bound node := by
    intro node member
    rw [List.mem_singleton.mp member]
    exact writable
  have among {fields : List Value} (all : ∀ field ∈ fields, Writable build bound field)
      (each : ∀ field ∈ fields, Writable build bound field →
        ∀ node ∈ nodes field, Writable build bound node) :
      ∀ node ∈ nodesOf fields, Writable build bound node := by
    intro node member
    obtain ⟨field, inside, deeper⟩ := nodes_of_mem member
    exact each field inside (all field inside) node deeper
  induction value using Value.induction with
  | scalar v => exact leaf writable
  | str v => exact leaf writable
  | bytes v => exact leaf writable
  | unitStruct name => exact leaf writable
  | newtypeStruct inner ih =>
      have single := fields_writable (newtype_first_error writable.clean)
        ((announced_cons inner []).mpr ⟨writable.lengths, rfl⟩)
        (newtype_total inner ▸ writable.small)
      exact List.forall_mem_cons.mpr ⟨writable, ih (single inner List.mem_cons_self)⟩
  | seq length elements ih =>
      have lengths := writable.lengths
      simp only [announced, Bool.and_eq_true] at lengths
      have small := writable.small
      rw [totalSize, headSize, tailSize] at small
      exact List.forall_mem_cons.mpr
        ⟨writable, among (fields_writable writable.clean lengths.2 (by omega)) ih⟩
  | compound kind fields ih =>
      exact List.forall_mem_cons.mpr
        ⟨writable, among (fields_writable writable.clean writable.lengths writable.small) ih⟩
  | unsupported kind payload =>
      have clean := writable.clean
      cases clean

end Nodes

/-- What holds while `to_writer` runs on a tree. A write on `NoWriter`, an unreachable branch
and, in a build with overflow checks, an addition or subtraction out of range abort the run,
so `returns` excludes them; the other builds run alike. -/
structure AbortFree (build : Build) (value : Value) : Prop where
  returns : value.toWriter build = (.ok (), .chunks (writtenSlots build value))
  sameInAll : ∀ other : Build, other.pointer = build.pointer →
    value.toWriter other = value.toWriter build
  sizes : ∀ node ∈ nodes value,
    computeSize (node.serialize build) = .ok (headSize node, isDynamic node, isFake node) ∧
      getTailSize (node.serialize build) = .ok (tailSize node)
  silent : ∀ node ∈ nodes value, ∀ writer before dynamic fake,
    (before + headSize node < build.usizeRange → ∃ pass,
      node.serialize build ⟨writer, .headSize before dynamic fake⟩ = (.ok (), ⟨writer, pass⟩)) ∧
    (before + tailSize node < build.usizeRange → ∃ pass,
      node.serialize build ⟨writer, .tailSize before⟩ = (.ok (), ⟨writer, pass⟩))
  sentinel : ∀ node ∈ nodes value, ∀ size dynamic fake,
    computeSize (node.serialize build) = .ok (size, dynamic, fake) →
    (dynamic && !fake) = false →
    ∃ slots, ∀ written offset, offset < build.usizeRange →
      node.serialize build ⟨.chunks written, .head offset⟩ =
        (.ok (), ⟨.chunks (written ++ slots), .head offset⟩)

section Node
variable {bound : Nat} {node : Value} (writable : Writable build bound node)
  (range : bound < build.usizeRange)
include writable range

theorem node_fits : build.Fits (totalSize node) :=
  Build.fits_of_lt (Nat.lt_of_le_of_lt writable.small range)

theorem node_sizes :
    computeSize (node.serialize build) = .ok (headSize node, isDynamic node, isFake node) ∧
      getTailSize (node.serialize build) = .ok (tailSize node) := by
  have fits := node_fits writable range
  have small := Nat.lt_of_le_of_lt writable.small range
  have parts : headSize node < build.usizeRange ∧ tailSize node < build.usizeRange := by
    unfold totalSize at small
    omega
  rw [compute_size_eq node writable.clean fits, get_tail_size_eq node writable.clean fits,
    Nat.mod_eq_of_lt parts.1, Nat.mod_eq_of_lt parts.2]
  exact ⟨rfl, rfl⟩

theorem node_silent (writer : Writer) (before : Nat) (dynamic fake : Bool) :
    (before + headSize node < build.usizeRange → ∃ pass,
      node.serialize build ⟨writer, .headSize before dynamic fake⟩ = (.ok (), ⟨writer, pass⟩)) ∧
    (before + tailSize node < build.usizeRange → ∃ pass,
      node.serialize build ⟨writer, .tailSize before⟩ = (.ok (), ⟨writer, pass⟩)) := by
  have fits := node_fits writable range
  constructor
  · intro room
    have run := head_size_pass node writable.clean fits writer before dynamic fake
      (Build.fits_of_lt room)
    rw [Nat.mod_eq_of_lt (by omega)] at run
    exact ⟨_, run⟩
  · intro room
    have run := tail_size_pass node writable.clean fits writer before (Build.fits_of_lt room)
    rw [Nat.mod_eq_of_lt (by omega)] at run
    exact ⟨_, run⟩

/-- A static node leaves the offset alone and writes the same with every offset. -/
theorem node_sentinel (static : isDynamic node = false) :
    ∃ slots, ∀ written offset, offset < build.usizeRange →
      node.serialize build ⟨.chunks written, .head offset⟩ =
        (.ok (), ⟨.chunks (written ++ slots), .head offset⟩) := by
  refine ⟨headSlots build build.usizeMax node, ?_⟩
  intro written offset small
  have run := head_pass node writable.clean writable.lengths (node_fits writable range) written
    offset (by rw [static_reserved node static]; exact Nat.zero_le _)
    (Build.fits_of_lt (by rwa [static_advance node static, Nat.add_zero]))
  rwa [static_advance node static, Nat.add_zero, Nat.mod_eq_of_lt small,
    static_head_slots node static offset build.usizeMax] at run

end Node

/-- Builds for one machine run alike where the checked one returns. -/
theorem same_in_all {value : Value} (other : Build) (pointer : other.pointer = build.pointer)
    (returns : ∀ build' : Build, build'.pointer = build.pointer →
      (value.toWriter build').1 ≠ .panic) : value.toWriter other = value.toWriter build := by
  rw [(to_writer_refines other value).resolve_left (returns other pointer),
    Build.wrapping_congr pointer,
    (to_writer_refines build value).resolve_left (returns build rfl)]

/-- No abort of the serializer can be reached on a tree whose encoding fits in a `usize`. -/
theorem aborts_unreachable (build : Build) (value : Value) (clean : firstError value = none)
    (lengths : announced build value = true) (small : totalSize value < build.usizeRange) :
    AbortFree build value := by
  have writable : Writable build (totalSize value) value := ⟨clean, lengths, Nat.le_refl _⟩
  have nodes := nodes_writable value writable
  constructor
  · exact to_writer_run value clean lengths (node_fits writable small)
  · intro other pointer
    apply same_in_all other pointer
    intro build' same
    have wrapped : build'.wrapping = build.wrapping := Build.wrapping_congr same
    have ranges : build'.usizeRange = build.usizeRange := by
      change build'.wrapping.usizeRange = build.wrapping.usizeRange
      rw [wrapped]
    have announces : announced build' value = true := by
      rw [← announced_wrapping, wrapped, announced_wrapping, lengths]
    rw [to_writer_run value clean announces (Build.fits_of_lt (ranges ▸ small))]
    simp
  · exact fun node member => node_sizes (nodes node member) small
  · exact fun node member => node_silent (nodes node member) small
  · intro node member size dynamic fake sized flags
    have same := (node_sizes (nodes node member) small).1
    rw [sized] at same
    cases same
    apply node_sentinel (nodes node member) small
    cases dynamic : isDynamic node with
    | false => rfl
    | true => simp [dynamic, exclusive_flags node dynamic] at flags

/-- Nested sequences beside a static struct. -/
theorem aborts_unreachable_nested :
    let value : Value := .compound .struct [.compound .tuple [.scalar (.u8 1), .scalar (.u8 2)],
      .seq (some 2) [asBytes [1], .seq (some 0) []]]
    AbortFree ⟨.bits32, true⟩ value := by
  intro value
  exact aborts_unreachable ⟨.bits32, true⟩ value (by decide) (by decide) (by decide)

end Perun.PanicFree
