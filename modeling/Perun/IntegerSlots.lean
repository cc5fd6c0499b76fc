import Perun.PassSizes

/-! Where the integers of a tree end up, and what stands there. A tree with one integer left
open writes that integer into one slot, and nothing else that it writes depends on it. -/
namespace Perun.IntegerSlots
open Ser Passes AbiErrors AbiEncode PassSizes

/-- A tree with one value left open. -/
inductive Context where
  | hole
  | newtypeStruct (inner : Context)
  | seq (length : Option Nat) (before : List Value) (inner : Context) (after : List Value)
  | compound (kind : Compound) (before : List Value) (inner : Context) (after : List Value)
  | unsupported (kind : Unsupported) (before : List Value) (inner : Context) (after : List Value)

def Context.plug (value : Value) : Context → Value
  | .hole => value
  | .newtypeStruct inner => .newtypeStruct (inner.plug value)
  | .seq length before inner after => .seq length (before ++ inner.plug value :: after)
  | .compound kind before inner after => .compound kind (before ++ inner.plug value :: after)
  | .unsupported kind before inner after =>
      .unsupported kind (before ++ inner.plug value :: after)

/-! Slots that depend on an integer. -/
section Slots

abbrev Slots := Scalar → List (List UInt8)

/-- The same whatever the integer is. -/
def Fixed (slots : Slots) : Prop := ∃ written, ∀ v, slots v = written

/-- One slot is that of the integer and the others are the same whatever it is. -/
def Carries (slots : Slots) : Prop :=
  ∃ before after, ∀ v, slots v = before ++ scalarSlot v :: after

theorem fixed_const (written : List (List UInt8)) : Fixed fun _ => written :=
  ⟨written, fun _ => rfl⟩

theorem fixed_append {first second : Slots} (left : Fixed first) (right : Fixed second) :
    Fixed fun v => first v ++ second v := by
  rcases left with ⟨written, same⟩
  rcases right with ⟨written', same'⟩
  refine ⟨written ++ written', ?_⟩
  intro v
  simp only [same, same']

theorem carries_append_left {first second : Slots} (left : Carries first) (right : Fixed second) :
    Carries fun v => first v ++ second v := by
  rcases left with ⟨before, after, carried⟩
  rcases right with ⟨written, same⟩
  refine ⟨before, after ++ written, ?_⟩
  intro v
  simp only [carried, same, List.append_assoc, List.cons_append]

theorem carries_append_right {first second : Slots} (left : Fixed first) (right : Carries second) :
    Carries fun v => first v ++ second v := by
  rcases left with ⟨written, same⟩
  rcases right with ⟨before, after, carried⟩
  refine ⟨written ++ before, after, ?_⟩
  intro v
  simp only [carried, same, List.append_assoc]

end Slots

/-! Flags and sizes of a tree do not depend on the integer. -/
section Shapes

theorem fields_shape {first second : Value} (same : SameShape first second)
    (before after : List Value) :
    fieldsDynamic (before ++ first :: after) = fieldsDynamic (before ++ second :: after) ∧
      fieldsHeadSize (before ++ first :: after) = fieldsHeadSize (before ++ second :: after) ∧
      fieldsTailSize (before ++ first :: after) = fieldsTailSize (before ++ second :: after) := by
  induction before with
  | nil =>
      simp only [List.nil_append, fieldsDynamic, fieldsHeadSize, fieldsTailSize, same.dynamic,
        same.fake, same.head, same.tail, and_self]
  | cons field rest ih =>
      simp only [List.cons_append, fieldsDynamic, fieldsHeadSize, fieldsTailSize, ih.1, ih.2.1,
        ih.2.2, and_self]

theorem plug_shape {first second : Value} (same : SameShape first second) (context : Context) :
    SameShape (context.plug first) (context.plug second) := by
  induction context with
  | hole => exact same
  | newtypeStruct inner ih =>
      constructor
      · simp only [Context.plug, isDynamic, ih.dynamic, ih.fake]
      · rfl
      · simp only [Context.plug, headSize, ih.dynamic, ih.head]
      · simp only [Context.plug, tailSize, ih.dynamic, ih.head, ih.tail]
  | seq length before inner after ih =>
      have shape := fields_shape ih before after
      constructor
      · rfl
      · rfl
      · simp only [Context.plug, headSize, shape.2.1]
      · simp only [Context.plug, tailSize, shape.2.2]
  | compound kind before inner after ih =>
      have shape := fields_shape ih before after
      constructor
      · exact shape.1
      · rfl
      · exact shape.2.1
      · exact shape.2.2
  | unsupported kind before inner after ih => exact ⟨rfl, rfl, rfl, rfl⟩

end Shapes

theorem plug_first_error {first second : Value} (same : firstError first = firstError second)
    (context : Context) : firstError (context.plug first) = firstError (context.plug second) := by
  have among {first second : Value} (same : firstError first = firstError second)
      (before after : List Value) : firstErrorAmong (before ++ first :: after) =
        firstErrorAmong (before ++ second :: after) := by
    induction before with
    | nil => simp only [List.nil_append, firstErrorAmong, same]
    | cons field rest ih => simp only [List.cons_append, firstErrorAmong, ih]
  induction context with
  | hole => exact same
  | newtypeStruct inner ih => exact ih
  | seq length before inner after ih => exact among ih before after
  | compound kind before inner after ih => exact among ih before after
  | unsupported kind before inner after ih => rfl

/-! Where the integer is written. -/
section Placed
variable {build : Build}

/-- The head or, in a dynamic tree, the tail carries the integer. -/
inductive Placed (build : Build) (tree : Scalar → Value) : Prop
  | inHead (head : ∀ offset, Carries fun v => headSlots build offset (tree v))
      (tail : Fixed fun v => tailSlots build (tree v))
  | inTail (dynamic : ∀ v, isDynamic (tree v) = true)
      (head : ∀ offset, Fixed fun v => headSlots build offset (tree v))
      (tail : Carries fun v => tailSlots build (tree v))

/-- A family of trees whose flags and sizes agree, and where each carries its integer. -/
structure Holds (build : Build) (tree : Scalar → Value) : Prop where
  shape : ∀ v w, SameShape (tree v) (tree w)
  placed : Placed build tree

/-- Head and tail together carry the integer. -/
theorem whole_carries {tree : Scalar → Value} (holds : Holds build tree) :
    Carries fun v => headSlots build (headSize (tree v)) (tree v) ++ tailSlots build (tree v) := by
  have sized : ∀ v, headSize (tree v) = headSize (tree (.bool false)) :=
    fun v => (holds.shape v _).head
  simp only [sized]
  cases holds.placed with
  | inHead head tail => exact carries_append_left (head _) tail
  | inTail dynamic head tail => exact carries_append_right (head _) tail

/-- A static tree carries its integer in the head. -/
theorem static_carries {tree : Scalar → Value} (holds : Holds build tree)
    (static : ∀ v, isDynamic (tree v) = false) (offset : Nat) :
    Carries fun v => headSlots build offset (tree v) := by
  cases holds.placed with
  | inHead head tail => exact head offset
  | inTail dynamic head tail => exact absurd (dynamic (.bool false)) (by simp [static])

theorem fields_dynamic {tree : Scalar → Value} (dynamic : ∀ v, isDynamic (tree v) = true)
    (before after : List Value) (v : Scalar) : fieldsDynamic (before ++ tree v :: after) = true := by
  induction before with
  | nil => simp [fieldsDynamic, dynamic]
  | cons field rest ih => rw [List.cons_append, fieldsDynamic, ih, Bool.or_true]

theorem fields_tail_fixed {tree : Scalar → Value} (static : ∀ v, isDynamic (tree v) = false)
    (before after : List Value) :
    Fixed fun v => fieldsTailSlots build (before ++ tree v :: after) := by
  induction before with
  | nil =>
      simp only [List.nil_append, fieldsTailSlots, static, Bool.false_eq_true, ↓reduceIte]
      exact fixed_const _
  | cons field rest ih =>
      simp only [List.cons_append, fieldsTailSlots]
      exact fixed_append (fixed_const _) ih

section Fields
variable {tree : Scalar → Value} (holds : Holds build tree)
include holds

theorem flag_cases : (∀ v, isDynamic (tree v) = true) ∨ ∀ v, isDynamic (tree v) = false := by
  have same : ∀ v, isDynamic (tree v) = isDynamic (tree (.bool false)) :=
    fun v => (holds.shape v _).dynamic
  simp only [same]
  cases isDynamic (tree (.bool false)) with
  | true => exact Or.inl fun _ => rfl
  | false => exact Or.inr fun _ => rfl

/-- Beside other fields a static tree is carried by the heads of all. -/
theorem fields_head_carries (static : ∀ v, isDynamic (tree v) = false) (reduction offset : Nat)
    (before after : List Value) :
    Carries fun v => fieldsHeadSlots build reduction offset (before ++ tree v :: after) := by
  induction before generalizing offset with
  | nil =>
      simp only [List.nil_append, fieldsHeadSlots, static, Bool.false_eq_true, ↓reduceIte]
      exact carries_append_left (static_carries holds static _) (fixed_const _)
  | cons field rest ih =>
      simp only [List.cons_append, fieldsHeadSlots]
      split
      · exact carries_append_right (fixed_const [_]) (ih _)
      · exact carries_append_right (fixed_const _) (ih _)

/-- Beside other fields a dynamic tree only has its offset among the heads. -/
theorem fields_head_fixed (dynamic : ∀ v, isDynamic (tree v) = true) (reduction offset : Nat)
    (before after : List Value) :
    Fixed fun v => fieldsHeadSlots build reduction offset (before ++ tree v :: after) := by
  have sized : ∀ v, totalSize (tree v) = totalSize (tree (.bool false)) := by
    intro v
    rw [totalSize, totalSize, (holds.shape v (.bool false)).head,
      (holds.shape v (.bool false)).tail]
  induction before generalizing offset with
  | nil =>
      simp only [List.nil_append, fieldsHeadSlots, dynamic, ↓reduceIte, sized]
      exact fixed_const _
  | cons field rest ih =>
      simp only [List.cons_append, fieldsHeadSlots]
      split
      · exact fixed_append (fixed_const [_]) (ih _)
      · exact fixed_append (fixed_const _) (ih _)

theorem fields_tail_carries (dynamic : ∀ v, isDynamic (tree v) = true)
    (before after : List Value) :
    Carries fun v => fieldsTailSlots build (before ++ tree v :: after) := by
  induction before with
  | nil =>
      simp only [List.nil_append, fieldsTailSlots, dynamic, ↓reduceIte]
      exact carries_append_left (whole_carries holds) (fixed_const _)
  | cons field rest ih =>
      simp only [List.cons_append, fieldsTailSlots]
      exact carries_append_right (fixed_const _) ih

theorem compound_placed (kind : Compound) (before after : List Value) :
    Placed build fun v => .compound kind (before ++ tree v :: after) := by
  rcases flag_cases holds with dynamic | static
  · exact .inTail (fields_dynamic dynamic before after)
      (fun offset => fields_head_fixed holds dynamic 0 offset before after)
      (fields_tail_carries holds dynamic before after)
  · exact .inHead (fun offset => fields_head_carries holds static 0 offset before after)
      (fields_tail_fixed static before after)

-- The announced length stands before the heads.
theorem seq_placed (length : Option Nat) (before after : List Value) :
    Placed build fun v => .seq length (before ++ tree v :: after) := by
  rcases flag_cases holds with dynamic | static
  · apply Placed.inTail
    · exact fun v => rfl
    · intro offset
      exact fixed_append (fixed_const [_])
        (fields_head_fixed holds dynamic slotSize offset before after)
    · exact fields_tail_carries holds dynamic before after
  · apply Placed.inHead
    · intro offset
      exact carries_append_right (fixed_const [_])
        (fields_head_carries holds static slotSize offset before after)
    · exact fields_tail_fixed static before after

theorem newtype_placed : Placed build fun v => .newtypeStruct (tree v) := by
  rcases flag_cases holds with dynamic | static
  · apply Placed.inTail
    · intro v
      rw [isDynamic, dynamic, Bool.true_or]
    · intro offset
      simp only [headSlots, dynamic, ↓reduceIte]
      exact fixed_const _
    · simp only [tailSlots, dynamic, ↓reduceIte]
      exact whole_carries holds
  · apply Placed.inHead
    · intro offset
      simp only [headSlots, static, Bool.false_eq_true, ↓reduceIte]
      exact static_carries holds static build.usizeMax
    · simp only [tailSlots, static, Bool.false_eq_true, ↓reduceIte]
      exact fixed_const _

end Fields

/-- The payload of an unsupported node is never visited, so there the run has to be clean. -/
theorem plug_placed (context : Context)
    (clean : firstError (context.plug (.scalar (.bool false))) = none) :
    Placed build fun v => context.plug (.scalar v) := by
  have shape (context : Context) (v w : Scalar) :
      SameShape (context.plug (.scalar v)) (context.plug (.scalar w)) := by
    have leaf : SameShape (.scalar v) (.scalar w) := ⟨rfl, rfl, rfl, rfl⟩
    exact plug_shape leaf context
  have inside {before after : List Value} {field : Value}
      (clean : firstErrorAmong (before ++ field :: after) = none) : firstError field = none := by
    induction before with
    | nil => exact ((first_error_cons _ _).mp clean).1
    | cons first rest ih => exact ih ((first_error_cons _ _).mp clean).2
  induction context with
  | hole => exact .inHead (fun offset => ⟨[], [], fun v => rfl⟩) (fixed_const _)
  | newtypeStruct inner ih => exact newtype_placed ⟨shape inner, ih clean⟩
  | seq length before inner after ih =>
      exact seq_placed ⟨shape inner, ih (inside clean)⟩ length before after
  | compound kind before inner after ih =>
      exact compound_placed ⟨shape inner, ih (inside clean)⟩ kind before after
  | unsupported kind before inner after ih => cases clean

theorem written_carries {tree : Scalar → Value} (holds : Holds build tree) :
    Carries fun v => writtenSlots build (tree v) := by
  rcases flag_cases holds with dynamic | static
  · simp only [writtenSlots, dynamic, ↓reduceIte, List.append_assoc]
    exact carries_append_right (fixed_const [_]) (whole_carries holds)
  · have sized : ∀ v, headSize (tree v) = headSize (tree (.bool false)) :=
      fun v => (holds.shape v _).head
    simp only [writtenSlots, static, sized, Bool.false_eq_true, ↓reduceIte, List.nil_append,
      List.append_nil]
    exact static_carries holds static _

end Placed

/-! What a returned run of a tree in the same place has written. -/
section Settled
variable {build : Build}

theorem settle_all_append (before after : List Value) :
    settleAll build (before ++ after) = settleAll build before ++ settleAll build after := by
  induction before with
  | nil => rfl
  | cons field rest ih => rw [List.cons_append, settleAll, ih, settleAll, List.cons_append]

theorem settle_plug (context : Context) : ∃ settled : Context, ∀ v,
    settle build (context.plug (.scalar v)) = settled.plug (.scalar v) := by
  induction context with
  | hole => exact ⟨.hole, fun v => rfl⟩
  | newtypeStruct inner ih =>
      rcases ih with ⟨settled, same⟩
      refine ⟨.newtypeStruct settled, ?_⟩
      intro v
      simp only [Context.plug, settle, same]
  | seq length before inner after ih =>
      rcases ih with ⟨settled, same⟩
      refine ⟨.seq (some (length.getD 0 % build.usizeRange)) (settleAll build before) settled
        (settleAll build after), ?_⟩
      intro v
      simp only [Context.plug, settle, settle_all_append, settleAll, same]
  | compound kind before inner after ih =>
      rcases ih with ⟨settled, same⟩
      refine ⟨.compound kind (settleAll build before) settled (settleAll build after), ?_⟩
      intro v
      simp only [Context.plug, settle, settle_all_append, settleAll, same]
  | unsupported kind before inner after ih =>
      exact ⟨.unsupported kind before inner after, fun v => rfl⟩

/-- A returned run is that of the settled tree, which has no error. -/
theorem returned_slots {value : Value} {chunks : List (List UInt8)}
    (returned : value.toWriter build = (.ok (), .chunks chunks)) :
    firstError value = none ∧ chunks = writtenSlots build.wrapping (settle build value) := by
  have clean : firstError value = none := by
    cases found : firstError value with
    | none => rfl
    | some error =>
        have failed := @to_writer_fails build.wrapping value error found (fits_wrapping build _)
        have same : value.toWriter build.wrapping = (.ok (), .chunks chunks) :=
          Op.refines_ok (writer_refines (serialize_refines build value)) returned
        rw [failed] at same
        cases same
  have run := to_writer_run (settle build value) (settled_clean clean) (settle_announced value)
    (fits_wrapping build _)
  constructor
  · exact clean
  · have same : (settle build value).toWriter build.wrapping = (.ok (), .chunks chunks) :=
      Op.refines_ok (writer_refines (settle_refines build value)) returned
    rw [run] at same
    cases same
    rfl

end Settled

/-- Among the integer methods only that of `i128` leaves the sign out. -/
def negativeI128 : Scalar → Bool
  | .i128 v => decide (v.toInt < 0)
  | _ => false

theorem i128_slot_iff (v : BitVec 128) :
    scalarSlot (.i128 v) = soliditySlot (.i128 v) ↔ ¬v.toInt < 0 := by
  have bound := v.isLt
  have written : scalarSlot (.i128 v) = HeadTail.number v.toNat :=
    unsigned_slot_eq v (by decide) (by decide)
  rw [written, soliditySlot, scalarInt]
  have signed := BitVec.toInt_eq_toNat_cond v
  constructor
  · intro same negative
    have wide : (256 : Nat) ^ 32 = 2 ^ 256 := by norm_num
    have equal := HeadTail.number_inj (by omega) (by omega) same
    omega
  · intro nonnegative
    have equal : (v.toInt % 2 ^ 256).toNat = v.toNat := by omega
    rw [equal]

theorem scalar_slot_iff (v : Scalar) :
    scalarSlot v = soliditySlot v ↔ negativeI128 v = false := by
  cases v with
  | i128 v => rw [i128_slot_iff, negativeI128, decide_eq_false_iff_not]
  | bool v => exact iff_of_true (scalar_slot_eq _ rfl) rfl
  | i8 v => exact iff_of_true (scalar_slot_eq _ rfl) rfl
  | i16 v => exact iff_of_true (scalar_slot_eq _ rfl) rfl
  | i32 v => exact iff_of_true (scalar_slot_eq _ rfl) rfl
  | i64 v => exact iff_of_true (scalar_slot_eq _ rfl) rfl
  | u8 v => exact iff_of_true (scalar_slot_eq _ rfl) rfl
  | u16 v => exact iff_of_true (scalar_slot_eq _ rfl) rfl
  | u32 v => exact iff_of_true (scalar_slot_eq _ rfl) rfl
  | u64 v => exact iff_of_true (scalar_slot_eq _ rfl) rfl
  | u128 v => exact iff_of_true (scalar_slot_eq _ rfl) rfl

/-- A run that returns has one slot for the integer at each place of a tree, and it holds
the two's complement in every case but that of a negative `i128`. -/
theorem integer_slots_iff (build : Build) (context : Context) : ∃ before after,
    ∀ (v : Scalar) (chunks : List (List UInt8)),
      (context.plug (.scalar v)).toWriter build = (.ok (), .chunks chunks) →
      ∃ slot, chunks = before ++ slot :: after ∧
        (slot = soliditySlot v ↔ negativeI128 v = false) := by
  rcases @settle_plug build context with ⟨settled, same⟩
  have leaf (v w : Scalar) : SameShape (.scalar v) (.scalar w) := ⟨rfl, rfl, rfl, rfl⟩
  by_cases clean : firstError (settled.plug (.scalar (.bool false))) = none
  · have holds : Holds build.wrapping fun v => settled.plug (.scalar v) :=
      ⟨fun v w => plug_shape (leaf v w) settled, plug_placed settled clean⟩
    rcases written_carries holds with ⟨before, after, carried⟩
    refine ⟨before, after, ?_⟩
    intro v chunks returned
    have run := (returned_slots returned).2
    rw [same] at run
    exact ⟨scalarSlot v, run.trans (carried v), scalar_slot_iff v⟩
  · refine ⟨[], [], ?_⟩
    intro v chunks returned
    have sound := (returned_slots returned).1
    have error : firstError (.scalar v) = firstError (.scalar (.bool false)) := rfl
    rw [← @settle_first_error build, same, plug_first_error error settled] at sound
    exact absurd sound clean

/-- A negative `i64` beside a string. -/
theorem integer_slots_iff_negative : ∃ before after slot,
    Value.toWriter ⟨.bits32, true⟩ (.compound .struct [.str [0x61], .scalar (.i64 (-2))]) =
      (.ok (), .chunks (before ++ slot :: after)) ∧ slot = soliditySlot (.i64 (-2)) := by
  have run := @to_writer_run ⟨.bits32, true⟩ (.compound .struct [.str [0x61], .scalar (.i64 (-2))])
    (by decide) (by decide) (Build.fits_of_lt (by decide))
  obtain ⟨before, after, each⟩ :=
    integer_slots_iff ⟨.bits32, true⟩ (.compound .struct [.str [0x61]] .hole [])
  obtain ⟨slot, placed, exactly⟩ := each (.i64 (-2)) _ run
  exact ⟨before, after, slot, run.trans (by rw [placed]), exactly.mpr rfl⟩

/-- An `i128` of minus one is written like 2^128 - 1. -/
theorem integer_slots_fail :
    ¬∀ (build : Build) (context : Context), ∃ before after,
      ∀ (v : Scalar) (chunks : List (List UInt8)),
        (context.plug (.scalar v)).toWriter build = (.ok (), .chunks chunks) →
        chunks = before ++ soliditySlot v :: after := by
  intro claimed
  obtain ⟨before, after, each⟩ := claimed ⟨.bits32, true⟩ .hole
  have run := @to_writer_run ⟨.bits32, true⟩ (.scalar (.i128 (-1))) rfl rfl
    (Build.fits_of_lt (by decide))
  have same : [scalarSlot (.i128 (-1))] = before ++ soliditySlot (.i128 (-1)) :: after :=
    each (.i128 (-1)) _ run
  rcases List.append_eq_singleton_iff.mp same.symm with ⟨_, slot⟩ | ⟨_, never⟩
  · rw [List.cons.injEq] at slot
    exact absurd slot.1.symm (by decide +kernel)
  · cases never

end Perun.IntegerSlots
