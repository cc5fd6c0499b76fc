import Perun.AbiErrors

/-! The Solidity encoding of the values the serializer supports. `Abi` is what a
client can build from the serde data model and the helpers of this crate; each
value has the tree of serde calls it makes and a layout in the specification's
terms. The serializer's passes produce the specification's bytes as long as no
offset leaves the machine word. -/
namespace Perun.AbiEncode
open BigEndian HeadTail Ser Passes

/-- `bytesN`, as `serialize_bytes` receives it. -/
structure FixedBytes where
  data : List UInt8
  nonempty : 1 ≤ data.length
  short : data.length ≤ slotSize

/-- A string is its UTF-8 bytes; `bytes` are written through `as_bytes`. -/
inductive Abi where
  | scalar (v : Scalar)
  | fixedBytes (v : FixedBytes)
  | string (utf8 : List UInt8)
  | bytes (data : List UInt8)
  | newtypeStruct (inner : Abi)
  | compound (kind : Compound) (fields : List Abi)
  | seq (elements : List Abi)

mutual
def Abi.toValue : Abi → Value
  | .scalar v => .scalar v
  | .fixedBytes v => .bytes v.data
  | .string utf8 => .str utf8
  | .bytes data => asBytes data
  | .newtypeStruct inner => .newtypeStruct inner.toValue
  | .compound kind fields => .compound kind (toValues fields)
  | .seq elements => asDynArray (toValues elements)

def toValues : List Abi → List Value
  | [] => []
  | v :: rest => v.toValue :: toValues rest
end

mutual
/-- The layout, given the slot of each scalar. -/
def Abi.layoutWith (slot : Scalar → List UInt8) : Abi → Layout
  | .scalar v => .word (slot v)
  | .fixedBytes v => .word (padRight v.data)
  | .string utf8 => .blob utf8
  | .bytes data => .blob data
  | .newtypeStruct inner => .tuple [inner.layoutWith slot]
  | .compound _ fields => .tuple (layoutsWith slot fields)
  | .seq elements => .array (layoutsWith slot elements)

def layoutsWith (slot : Scalar → List UInt8) : List Abi → List Layout
  | [] => []
  | v :: rest => v.layoutWith slot :: layoutsWith slot rest
end

def scalarInt : Scalar → Int
  | .bool v => if v then 1 else 0
  | .i8 v => v.toInt
  | .i16 v => v.toInt
  | .i32 v => v.toInt
  | .i64 v => v.toInt
  | .i128 v => v.toInt
  | .u8 v => v.toNat
  | .u16 v => v.toNat
  | .u32 v => v.toNat
  | .u64 v => v.toNat
  | .u128 v => v.toNat

/-- Integers are written in two's complement over the whole slot. -/
def soliditySlot (v : Scalar) : List UInt8 := number (scalarInt v % 2 ^ 256).toNat

/-- The specification's encoding of the tuple whose only component is the value. -/
def solidityEncoding (v : Abi) : List UInt8 := encode (.tuple [v.layoutWith soliditySlot])

mutual
def Abi.noI128 : Abi → Bool
  | .scalar (.i128 _) => false
  | .scalar _ | .fixedBytes _ | .string _ | .bytes _ => true
  | .newtypeStruct inner => inner.noI128
  | .compound _ fields => allNoI128 fields
  | .seq elements => allNoI128 elements

def allNoI128 : List Abi → Bool
  | [] => true
  | v :: rest => v.noI128 && allNoI128 rest
end

mutual
/-- Every run-time length is below the range of a `usize`. -/
def Abi.lengthsFit (range : Nat) : Abi → Bool
  | .scalar _ | .fixedBytes _ => true
  | .string data | .bytes data => decide (data.length < range)
  | .newtypeStruct inner => inner.lengthsFit range
  | .compound _ fields => allLengthsFit range fields
  | .seq elements => decide (elements.length < range) && allLengthsFit range elements

def allLengthsFit (range : Nat) : List Abi → Bool
  | [] => true
  | v :: rest => v.lengthsFit range && allLengthsFit range rest
end

/-- Case analysis over a value with a hypothesis for every child. -/
@[elab_as_elim]
theorem Abi.induction {motive : Abi → Prop} (scalar : ∀ v, motive (.scalar v))
    (fixedBytes : ∀ v, motive (.fixedBytes v)) (string : ∀ utf8, motive (.string utf8))
    (bytes : ∀ data, motive (.bytes data))
    (newtypeStruct : ∀ inner, motive inner → motive (.newtypeStruct inner))
    (compound : ∀ kind fields, (∀ field ∈ fields, motive field) → motive (.compound kind fields))
    (seq : ∀ elements, (∀ element ∈ elements, motive element) → motive (.seq elements))
    (v : Abi) : motive v := by
  refine Abi.rec (motive_1 := motive) (motive_2 := fun values => ∀ v ∈ values, motive v)
    scalar fixedBytes string bytes newtypeStruct compound seq ?_ ?_ v
  · intro v member
    cases member
  · intro first rest ofFirst ofRest v member
    rcases List.mem_cons.mp member with same | later
    · exact same ▸ ofFirst
    · exact ofRest v later

theorem to_values_length (values : List Abi) : (toValues values).length = values.length := by
  induction values with
  | nil => rfl
  | cons v rest ih => rw [toValues, List.length_cons, ih, List.length_cons]

theorem layouts_length (slot : Scalar → List UInt8) (values : List Abi) :
    (layoutsWith slot values).length = values.length := by
  induction values with
  | nil => rfl
  | cons v rest ih => rw [layoutsWith, List.length_cons, ih, List.length_cons]

/-! Slots of the leaves. -/
section Leaves

theorem unsigned_slot_eq {bits : Nat} (v : BitVec bits) (aligned : 2 ^ bits = 256 ^ (bits / 8))
    (narrow : bits / 8 ≤ slotSize) : unsignedSlot v = number v.toNat := by
  have bound : v.toNat < 256 ^ (bits / 8) := aligned ▸ v.isLt
  have width : slotSize - bits / 8 + bits / 8 = 32 := Nat.sub_add_cancel narrow
  rw [unsignedSlot, toBeBytes, ← bigEndian_zero_extend _ _ _ bound, width, number]

theorem signed_slot_eq {bits : Nat} (v : BitVec bits) (aligned : 2 ^ bits = 256 ^ (bits / 8))
    (narrow : bits / 8 ≤ slotSize) : signedSlot v = number (v.toInt % 2 ^ 256).toNat := by
  have bound : v.toNat < 256 ^ (bits / 8) := aligned ▸ v.isLt
  have width : slotSize - bits / 8 + bits / 8 = 32 := Nat.sub_add_cancel narrow
  have range : 256 ^ (slotSize - bits / 8) * 256 ^ (bits / 8) = 2 ^ 256 := by
    rw [← Nat.pow_add, width]
    norm_num
  have high : 0 < 256 ^ (slotSize - bits / 8) := by positivity
  by_cases negative : v.toInt < 0
  · have value : v.toInt = (v.toNat : Int) - (256 ^ (bits / 8) : Nat) := by
      have large := BitVec.toInt_neg_iff.mp negative
      rw [BitVec.toInt_eq_toNat_cond, if_neg (by omega), aligned]
    have complement : (v.toInt % 2 ^ 256).toNat =
        (256 ^ (slotSize - bits / 8) - 1) * 256 ^ (bits / 8) + v.toNat := by
      rw [Nat.sub_mul, range, Nat.one_mul]
      have small : 256 ^ (bits / 8) ≤ 2 ^ 256 := range ▸ Nat.le_mul_of_pos_left _ high
      generalize 256 ^ (bits / 8) = modulus at *
      rw [value]
      omega
    rw [signedSlot, if_pos negative, complement, number, ← width,
      bigEndian_ones_extend _ _ _ bound, toBeBytes]
  · have value : v.toInt = v.toNat := by
      rw [BitVec.toInt_neg_iff] at negative
      rw [BitVec.toInt_eq_toNat_cond, if_pos (by omega)]
    have small : v.toNat < 2 ^ 256 :=
      Nat.lt_of_lt_of_le bound (range ▸ Nat.le_mul_of_pos_left _ high)
    have same : (v.toInt % 2 ^ 256).toNat = v.toNat := by
      rw [value]
      omega
    rw [signedSlot, if_neg negative, same, ← unsigned_slot_eq v aligned narrow, unsignedSlot]

theorem scalar_slot_eq (v : Scalar) (narrow : (Abi.scalar v).noI128 = true) :
    scalarSlot v = soliditySlot v := by
  have unsigned {bits : Nat} (v : BitVec bits) (aligned : 2 ^ bits = 256 ^ (bits / 8))
      (narrow : bits / 8 ≤ slotSize) (small : 2 ^ bits ≤ 2 ^ 256) :
      unsignedSlot v = number ((v.toNat : Int) % 2 ^ 256).toNat := by
    have bound := Nat.lt_of_lt_of_le v.isLt small
    have same : ((v.toNat : Int) % 2 ^ 256).toNat = v.toNat := by omega
    rw [unsigned_slot_eq v aligned narrow, same]
  cases v with
  | bool v =>
      cases v with
      | false => exact unsigned (0 : BitVec 8) (by decide) (by decide) (by decide)
      | true => exact unsigned (1 : BitVec 8) (by decide) (by decide) (by decide)
  | i8 v => exact signed_slot_eq v (by decide) (by decide)
  | i16 v => exact signed_slot_eq v (by decide) (by decide)
  | i32 v => exact signed_slot_eq v (by decide) (by decide)
  | i64 v => exact signed_slot_eq v (by decide) (by decide)
  | i128 v => cases narrow
  | u8 v => exact unsigned v (by decide) (by decide) (by decide)
  | u16 v => exact unsigned v (by decide) (by decide) (by decide)
  | u32 v => exact unsigned v (by decide) (by decide) (by decide)
  | u64 v => exact unsigned v (by decide) (by decide) (by decide)
  | u128 v => exact unsigned v (by decide) (by decide) (by decide)

theorem scalar_slot_length (v : Scalar) : (scalarSlot v).length = slotSize := by
  cases v <;> simp [scalarSlot, signedSlot, unsignedSlot, toBeBytes, slotSize]

theorem chunks_flatten (v : List UInt8) (count : Nat) :
    ((List.range count).map fun i => (v.drop (slotSize * i)).take slotSize).flatten =
      v.take (slotSize * count) := by
  induction count with
  | zero => simp
  | succ count ih =>
      rw [List.range_succ, List.map_append, List.flatten_append, ih, Nat.mul_succ, List.take_add]
      simp

theorem slots_flatten (v : List UInt8) : (slots v).flatten = padRight v := by
  have whole : (chunksExact v).flatten ++ remainder v = v := by
    rw [chunksExact, chunks_flatten, remainder, List.take_append_drop]
  have rest := remainder_length v
  rw [slots, List.flatten_append]
  by_cases complete : (remainder v).isEmpty = true
  · have empty := List.isEmpty_iff.mp complete
    have aligned : padding v.length = 0 := by
      rw [empty, List.length_nil, slotSize] at rest
      rw [padding, ← rest]
    rw [if_pos complete, padRight, aligned]
    rw [empty, List.append_nil] at whole
    rw [whole]
    rfl
  · have short : (remainder v).length ≠ 0 := by
      intro zero
      exact complete (List.isEmpty_iff.mpr (List.length_eq_zero_iff.mp zero))
    have fill : slotSize - (remainder v).length = padding v.length := by
      rw [rest] at short ⊢
      unfold padding slotSize at *
      omega
    rw [if_neg complete, List.flatten_singleton, ← List.append_assoc, whole, fill, padRight]

end Leaves

/-! A tree and a layout agree when the passes over the tree produce the layout's
encoding, with each offset rendered as a machine word. -/
section Agreement
variable {build : Build}

structure Agrees (build : Build) (value : Value) (layout : Layout) : Prop where
  real : isFake value = false
  flag : isDynamic value = layout.dynamic
  anywhere : isDynamic value = false → ∀ offset,
    (headSlots build offset value).flatten = encodeWith (usizeSlot build) layout
  whole : (headSlots build (Passes.headSize value) value ++ tailSlots build value).flatten =
    encodeWith (usizeSlot build) layout
  size : totalSize value = (encodeWith (usizeSlot build) layout).length

theorem usize_slot_length (n : Nat) : (usizeSlot build n).length = 32 := number_length _

theorem usize_slot_eq {n : Nat} (fits : n < build.usizeRange) : usizeSlot build n = number n := by
  rw [usizeSlot, Nat.mod_eq_of_lt fits]

section Members
variable {values : List Value} {layouts : List Layout}
  (related : List.Forall₂ (Agrees build) values layouts)
include related

theorem members_dynamic : fieldsDynamic values = anyDynamic layouts := by
  induction related with
  | nil => rfl
  | cons first _ ih => rw [fieldsDynamic, anyDynamic, first.real, first.flag, Bool.or_false, ih]

theorem members_head_size :
    fieldsHeadSize values = HeadTail.headSize (partsWith (usizeSlot build) layouts) := by
  induction related with
  | nil => rfl
  | @cons value layout _ _ first _ ih =>
      simp only [fieldsHeadSize, partsWith, HeadTail.headSize, List.map_cons, List.sum_cons,
        Part.headSize, ih, first.flag]
      cases dynamic : layout.dynamic with
      | true => rfl
      | false =>
          have static := first.flag.trans dynamic
          have size := first.size
          rw [totalSize, static_tail_size value static, Nat.add_zero] at size
          rw [size]
          rfl

theorem members_tail_size :
    fieldsTailSize values = (tails (partsWith (usizeSlot build) layouts)).length := by
  induction related with
  | nil => rfl
  | @cons value layout _ _ first _ ih =>
      simp only [fieldsTailSize, partsWith, tails, List.flatMap_cons, List.length_append, Part.tail,
        first.flag]
      rw [ih]
      cases dynamic : layout.dynamic with
      | true => simp [← first.size, totalSize, tails]
      | false => simp [static_tail_size value (first.flag.trans dynamic), tails]

theorem members_heads (reduction offset : Nat) (reduced : reduction ≤ offset) :
    (fieldsHeadSlots build reduction offset values).flatten =
      heads (usizeSlot build) (offset - reduction) (partsWith (usizeSlot build) layouts) := by
  induction related generalizing offset with
  | nil => rfl
  | @cons value layout _ _ first _ ih =>
      rw [fieldsHeadSlots, partsWith, heads, first.flag]
      cases dynamic : layout.dynamic with
      | true =>
          have later := ih (offset + totalSize value) (by omega)
          have moved : offset + totalSize value - reduction =
              offset - reduction + (encodeWith (usizeSlot build) layout).length := by
            rw [first.size]
            omega
          simp only [↓reduceIte, List.flatten_cons, later, moved]
      | false =>
          have own := first.anywhere (first.flag.trans dynamic) build.usizeMax
          simp only [Bool.false_eq_true, ↓reduceIte, List.flatten_append, own, ih offset reduced]

theorem members_tails :
    (fieldsTailSlots build values).flatten = tails (partsWith (usizeSlot build) layouts) := by
  induction related with
  | nil => rfl
  | @cons value layout _ _ first _ ih =>
      rw [fieldsTailSlots, List.flatten_append, ih, first.flag]
      simp only [partsWith, tails, List.flatMap_cons, Part.tail]
      cases dynamic : layout.dynamic with
      | true => simp only [↓reduceIte, first.whole]
      | false => simp

end Members

theorem heads_static (offsetWord : Nat → List UInt8) (layouts : List Layout)
    (static : anyDynamic layouts = false) (offset offset' : Nat) :
    heads offsetWord offset (partsWith offsetWord layouts) =
      heads offsetWord offset' (partsWith offsetWord layouts) := by
  induction layouts with
  | nil => rfl
  | cons layout rest ih =>
      simp only [anyDynamic, Bool.or_eq_false_iff] at static
      simp only [partsWith, heads, static.1, Bool.false_eq_true, ↓reduceIte, ih static.2]

theorem tails_static (offsetWord : Nat → List UInt8) (layouts : List Layout)
    (static : anyDynamic layouts = false) : tails (partsWith offsetWord layouts) = [] := by
  induction layouts with
  | nil => rfl
  | cons layout rest ih =>
      simp only [anyDynamic, Bool.or_eq_false_iff] at static
      have later := ih static.2
      simp only [tails] at later
      simp [partsWith, tails, Part.tail, static.1, later]

theorem compound_agrees (kind : Compound) {values : List Value} {layouts : List Layout}
    (related : List.Forall₂ (Agrees build) values layouts) :
    Agrees build (.compound kind values) (.tuple layouts) where
  real := rfl
  flag := members_dynamic related
  anywhere := by
    intro static offset
    simp only [isDynamic, members_dynamic related] at static
    simp only [headSlots, members_heads related 0 offset (Nat.zero_le _), encodeWith, assemble,
      tails_static _ layouts static, List.append_nil]
    exact heads_static _ layouts static _ _
  whole := by
    simp only [headSlots, tailSlots, Passes.headSize, List.flatten_append, encodeWith, assemble,
      members_heads related 0 _ (Nat.zero_le _), members_tails related, members_head_size related,
      Nat.sub_zero]
  size := by
    rw [totalSize, Passes.headSize, tailSize, members_head_size related, members_tail_size related,
      encodeWith, assemble_length usize_slot_length]

theorem seq_agrees {values : List Value} {layouts : List Layout}
    (related : List.Forall₂ (Agrees build) values layouts)
    (fits : values.length < build.usizeRange) :
    Agrees build (asDynArray values) (.array layouts) where
  real := rfl
  flag := rfl
  anywhere := by
    intro static
    cases static
  whole := by
    have offsets := members_heads related slotSize (slotSize + fieldsHeadSize values)
      (Nat.le_add_right _ _)
    rw [Nat.add_sub_cancel_left, members_head_size related] at offsets
    rw [related.length_eq] at fits
    simp only [asDynArray, headSlots, tailSlots, Passes.headSize, List.cons_append,
      List.flatten_cons, List.flatten_append, Option.getD_some, encodeWith, assemble,
      members_tails related, members_head_size related, offsets, related.length_eq,
      usize_slot_eq fits]
  size := by
    rw [totalSize, asDynArray, Passes.headSize, tailSize, members_head_size related,
      members_tail_size related, encodeWith, List.length_append, number_length,
      assemble_length usize_slot_length]
    unfold slotSize
    omega

theorem newtype_agrees {value : Value} {layout : Layout} (agrees : Agrees build value layout) :
    Agrees build (.newtypeStruct value) (.tuple [layout]) := by
  have single := compound_agrees .tuple (List.Forall₂.cons agrees List.Forall₂.nil)
  constructor
  · rfl
  · simpa [isDynamic, fieldsDynamic] using single.flag
  · simpa [isDynamic, fieldsDynamic, headSlots, fieldsHeadSlots] using single.anywhere
  · simpa [headSlots, fieldsHeadSlots, tailSlots, fieldsTailSlots, Passes.headSize, fieldsHeadSize]
      using single.whole
  · simpa [totalSize, Passes.headSize, tailSize, fieldsHeadSize, fieldsTailSize] using single.size

theorem scalar_agrees (v : Scalar) : Agrees build (.scalar v) (.word (scalarSlot v)) where
  real := rfl
  flag := rfl
  anywhere := fun _ _ => by simp [headSlots, encodeWith]
  whole := by simp [headSlots, tailSlots, encodeWith]
  size := (scalar_slot_length v).symm

theorem fixed_bytes_agrees (v : FixedBytes) :
    Agrees build (.bytes v.data) (.word (padRight v.data)) where
  real := rfl
  flag := rfl
  anywhere := fun _ _ => by simp [headSlots, encodeWith, slots_flatten]
  whole := by simp [headSlots, tailSlots, encodeWith, slots_flatten]
  size := (padRight_length v.data).symm

theorem string_agrees (utf8 : List UInt8) (fits : utf8.length < build.usizeRange) :
    Agrees build (.str utf8) (.blob utf8) where
  real := rfl
  flag := rfl
  anywhere := by
    intro static
    cases static
  whole := by simp [headSlots, tailSlots, encodeWith, slots_flatten, usize_slot_eq fits]
  size := by
    rw [encodeWith, List.length_append, number_length, padRight_length]
    simp [totalSize, Passes.headSize, tailSize, paddedLength, slotSize]

-- The marker has no size of its own; it only makes the pair dynamic.
theorem bytes_agrees (data : List UInt8) (fits : data.length < build.usizeRange) :
    Agrees build (asBytes data) (.blob data) where
  real := rfl
  flag := rfl
  anywhere := by
    intro static
    cases static
  whole := by
    have bound : data.length < 2 ^ 64 := Nat.lt_of_lt_of_le fits build.usize_range_le
    have lengthSlot : scalarSlot (.u64 (BitVec.ofNat 64 data.length)) = number data.length := by
      rw [scalarSlot, unsigned_slot_eq _ (by decide) (by decide), BitVec.toNat_ofNat,
        Nat.mod_eq_of_lt bound]
    simp [asBytes, Value.dynamicMarker, headSlots, fieldsHeadSlots, tailSlots, fieldsTailSlots,
      isDynamic, encodeWith, slots_flatten, lengthSlot]
  size := by
    rw [encodeWith, List.length_append, number_length, padRight_length]
    simp [asBytes, Value.dynamicMarker, totalSize, Passes.headSize, tailSize, fieldsHeadSize,
      fieldsTailSize, isDynamic, paddedLength, slotSize]

theorem abi_agrees (v : Abi) (lengths : v.lengthsFit build.usizeRange = true) :
    Agrees build v.toValue (v.layoutWith scalarSlot) := by
  have among (values : List Abi)
      (each : ∀ v ∈ values, v.lengthsFit build.usizeRange = true →
        Agrees build v.toValue (v.layoutWith scalarSlot))
      (lengths : allLengthsFit build.usizeRange values = true) :
      List.Forall₂ (Agrees build) (toValues values) (layoutsWith scalarSlot values) := by
    induction values with
    | nil => exact List.Forall₂.nil
    | cons first rest ih =>
        simp only [allLengthsFit, Bool.and_eq_true] at lengths
        exact List.Forall₂.cons (each first List.mem_cons_self lengths.1)
          (ih (fun v member => each v (List.mem_cons_of_mem first member)) lengths.2)
  induction v using Abi.induction with
  | scalar v => exact scalar_agrees v
  | fixedBytes v => exact fixed_bytes_agrees v
  | string utf8 => exact string_agrees utf8 (of_decide_eq_true lengths)
  | bytes data => exact bytes_agrees data (of_decide_eq_true lengths)
  | newtypeStruct inner ih => exact newtype_agrees (ih lengths)
  | compound kind fields ih => exact compound_agrees kind (among fields ih lengths)
  | seq elements ih =>
      simp only [Abi.lengthsFit, Bool.and_eq_true, decide_eq_true_eq] at lengths
      exact seq_agrees (among elements ih lengths.2) (to_values_length elements ▸ lengths.1)

end Agreement

/-! Nothing in such a value is unrepresentable, and its sequences announce their
lengths. -/
section Clean
variable {build : Build}

theorem abi_clean (v : Abi) : firstError v.toValue = none := by
  have among (values : List Abi) (each : ∀ v ∈ values, firstError v.toValue = none) :
      firstErrorAmong (toValues values) = none := by
    induction values with
    | nil => rfl
    | cons first rest ih =>
        rw [toValues, first_error_cons]
        exact ⟨each first List.mem_cons_self,
          ih fun v member => each v (List.mem_cons_of_mem first member)⟩
  induction v using Abi.induction with
  | scalar v => rfl
  | fixedBytes v => rfl
  | string utf8 => rfl
  | bytes data => rfl
  | newtypeStruct inner ih => exact ih
  | compound kind fields ih => exact among fields ih
  | seq elements ih => exact among elements ih

theorem abi_announced (v : Abi) (lengths : v.lengthsFit build.usizeRange = true) :
    announced build v.toValue = true := by
  have among (values : List Abi)
      (each : ∀ v ∈ values, v.lengthsFit build.usizeRange = true → announced build v.toValue = true)
      (lengths : allLengthsFit build.usizeRange values = true) :
      allAnnounced build (toValues values) = true := by
    induction values with
    | nil => rfl
    | cons first rest ih =>
        simp only [allLengthsFit, Bool.and_eq_true] at lengths
        exact (announced_cons _ _).mpr ⟨each first List.mem_cons_self lengths.1,
          ih (fun v member => each v (List.mem_cons_of_mem first member)) lengths.2⟩
  induction v using Abi.induction with
  | scalar v => rfl
  | fixedBytes v => rfl
  | string utf8 => rfl
  | bytes data => rfl
  | newtypeStruct inner ih => exact ih lengths
  | compound kind fields ih => exact among fields ih lengths
  | seq elements ih =>
      simp only [Abi.lengthsFit, Bool.and_eq_true] at lengths
      simp only [Abi.toValue, asDynArray, announced, Bool.and_eq_true, to_values_length]
      exact ⟨lengths.1, among elements ih lengths.2⟩

end Clean

section Written
variable {build : Build}

/-- The stream written for a value is the encoding of the one-element tuple. -/
theorem written_encoding {value : Value} {layout : Layout} (agrees : Agrees build value layout) :
    (writtenSlots build value).flatten = encodeWith (usizeSlot build) (.tuple [layout]) := by
  have whole := agrees.whole
  simp only [writtenSlots, encodeWith, partsWith, assemble, HeadTail.headSize, heads, tails,
    List.map_cons, List.map_nil, List.sum_cons, List.sum_nil, Part.headSize, List.flatMap_cons,
    List.flatMap_nil, Part.tail, ← agrees.flag]
  cases dynamic : isDynamic value with
  | true =>
      rw [List.flatten_append] at whole
      simp [← whole, slotSize]
  | false =>
      have own := agrees.anywhere dynamic
      simp [own]

theorem tuple_size_ge {value : Value} {layout : Layout} (agrees : Agrees build value layout) :
    totalSize value ≤ (encodeWith (usizeSlot build) (.tuple [layout])).length := by
  rw [agrees.size, encodeWith]
  exact part_le_assemble usize_slot_length _ ⟨layout.dynamic, _⟩ List.mem_cons_self

theorem layout_congr (slot slot' : Scalar → List UInt8) (v : Abi)
    (same : ∀ scalar, (Abi.scalar scalar).noI128 = true → slot scalar = slot' scalar)
    (narrow : v.noI128 = true) : v.layoutWith slot = v.layoutWith slot' := by
  have among (values : List Abi)
      (each : ∀ v ∈ values, v.noI128 = true → v.layoutWith slot = v.layoutWith slot')
      (narrow : allNoI128 values = true) : layoutsWith slot values = layoutsWith slot' values := by
    induction values with
    | nil => rfl
    | cons first rest ih =>
        simp only [allNoI128, Bool.and_eq_true] at narrow
        rw [layoutsWith, layoutsWith, each first List.mem_cons_self narrow.1,
          ih (fun v member => each v (List.mem_cons_of_mem first member)) narrow.2]
  induction v using Abi.induction with
  | scalar v => rw [Abi.layoutWith, Abi.layoutWith, same v narrow]
  | fixedBytes v => rfl
  | string utf8 => rfl
  | bytes data => rfl
  | newtypeStruct inner ih => rw [Abi.layoutWith, Abi.layoutWith, ih narrow]
  | compound kind fields ih => rw [Abi.layoutWith, Abi.layoutWith, among fields ih narrow]
  | seq elements ih => rw [Abi.layoutWith, Abi.layoutWith, among elements ih narrow]

end Written

/-- The serializer writes the Solidity encoding, slot by slot. -/
theorem to_writer_solidity (build : Build) (v : Abi) (narrow : v.noI128 = true)
    (lengths : v.lengthsFit build.usizeRange = true)
    (small : (solidityEncoding v).length < 2 ^ 32) :
    ∃ chunks, v.toValue.toWriter build = (.ok (), .chunks chunks) ∧
      chunks.flatten = solidityEncoding v := by
  have agrees := abi_agrees v lengths
  rw [layout_congr scalarSlot soliditySlot v scalar_slot_eq narrow] at agrees
  have rendered : encodeWith (usizeSlot build) (.tuple [v.layoutWith soliditySlot]) =
      solidityEncoding v := by
    refine encode_with_congr number_length (fun n bound => usize_slot_eq ?_) _ small
    exact Nat.lt_of_lt_of_le bound build.usize_range_ge
  have fits : build.Fits (totalSize v.toValue) := by
    have bound := tuple_size_ge agrees
    have large := build.usize_range_ge
    rw [rendered] at bound
    exact Build.fits_of_lt (by omega)
  refine ⟨_, to_writer_run v.toValue (abi_clean v) (abi_announced v lengths) fits, ?_⟩
  rw [written_encoding agrees, rendered]

/-- A signed integer, a nested dynamic sequence and empty `bytes` side by side. -/
theorem to_writer_solidity_nested :
    let v : Abi := .compound .struct
      [.scalar (.i8 (-2)), .seq [.string [0x61], .string []], .bytes [],
        .fixedBytes ⟨[1, 2, 3], by decide, by decide⟩]
    ∃ chunks, v.toValue.toWriter ⟨.bits32, true⟩ = (.ok (), .chunks chunks) ∧
      chunks.flatten = solidityEncoding v ∧ chunks.flatten.length = 384 := by
  obtain ⟨chunks, run, same⟩ := to_writer_solidity ⟨.bits32, true⟩
    (.compound .struct [.scalar (.i8 (-2)), .seq [.string [0x61], .string []], .bytes [],
      .fixedBytes ⟨[1, 2, 3], by decide, by decide⟩]) (by decide) (by decide) (by decide +kernel)
  exact ⟨chunks, run, same, by rw [same]; decide +kernel⟩

end Perun.AbiEncode
