import Perun.AbiEncode

/-! Unique decodability. A schema is the static type of a value. Two values of one
schema that are written as the same stream are equal, also where a build without
overflow checks has truncated the offsets. -/
namespace Perun.AbiDecode
open BigEndian HeadTail Ser Passes AbiEncode AbiErrors

inductive ScalarType where
  | bool
  | i8
  | i16
  | i32
  | i64
  | i128
  | u8
  | u16
  | u32
  | u64
  | u128
  deriving DecidableEq

def scalarType : Scalar → ScalarType
  | .bool _ => .bool
  | .i8 _ => .i8
  | .i16 _ => .i16
  | .i32 _ => .i32
  | .i64 _ => .i64
  | .i128 _ => .i128
  | .u8 _ => .u8
  | .u16 _ => .u16
  | .u32 _ => .u32
  | .u64 _ => .u64
  | .u128 _ => .u128

inductive Schema where
  | scalar (type : ScalarType)
  | fixedBytes (n : Nat)
  | string
  | bytes
  | newtypeStruct (inner : Schema)
  | compound (kind : Compound) (fields : List Schema)
  | seq (element : Schema)

mutual
def HasSchema : Schema → Abi → Prop
  | .scalar type, .scalar v => scalarType v = type
  | .fixedBytes n, .fixedBytes v => v.data.length = n
  | .string, .string _ => True
  | .bytes, .bytes _ => True
  | .newtypeStruct inner, .newtypeStruct v => HasSchema inner v
  | .compound kind schemas, .compound kind' fields => kind = kind' ∧ FieldsHaveSchema schemas fields
  | .seq schema, .seq elements => ∀ element ∈ elements, HasSchema schema element
  | _, _ => False

def FieldsHaveSchema : List Schema → List Abi → Prop
  | [], [] => True
  | schema :: schemas, field :: fields => HasSchema schema field ∧ FieldsHaveSchema schemas fields
  | _, _ => False
end

mutual
def Schema.shape : Schema → Shape
  | .scalar _ => .word
  | .fixedBytes _ => .word
  | .string => .blob
  | .bytes => .blob
  | .newtypeStruct inner => .tuple [inner.shape]
  | .compound _ fields => .tuple (shapes fields)
  | .seq element => .array element.shape

def shapes : List Schema → List Shape
  | [] => []
  | schema :: rest => schema.shape :: shapes rest
end

theorem layouts_mem {slot : Scalar → List UInt8} {values : List Abi} {layout : Layout} :
    layout ∈ layoutsWith slot values ↔ ∃ v ∈ values, v.layoutWith slot = layout := by
  induction values with
  | nil => simp [layoutsWith]
  | cons v rest ih => simp [layoutsWith, ih, eq_comm]

theorem all_lengths_fit {range : Nat} {values : List Abi} :
    allLengthsFit range values = true ↔ ∀ v ∈ values, v.lengthsFit range = true := by
  induction values with
  | nil => simp [allLengthsFit]
  | cons v rest ih => simp [allLengthsFit, ih]

/-! The layout of a value determines it. -/
section Layouts

theorem unsigned_slot_inj {bits : Nat} {v w : BitVec bits} (aligned : 2 ^ bits = 256 ^ (bits / 8))
    (same : unsignedSlot v = unsignedSlot w) : v = w := by
  have digits := (List.append_inj same rfl).2
  exact BitVec.eq_of_toNat_eq (bigEndian_inj (aligned ▸ v.isLt) (aligned ▸ w.isLt) digits)

theorem signed_slot_inj {bits : Nat} {v w : BitVec bits} (aligned : 2 ^ bits = 256 ^ (bits / 8))
    (same : signedSlot v = signedSlot w) : v = w := by
  have digits := (List.append_inj same (by simp)).2
  exact BitVec.eq_of_toNat_eq (bigEndian_inj (aligned ▸ v.isLt) (aligned ▸ w.isLt) digits)

theorem scalar_slot_inj {v w : Scalar} (types : scalarType v = scalarType w)
    (same : scalarSlot v = scalarSlot w) : v = w := by
  cases v <;> cases w <;> cases types
  case bool.bool v w =>
    have bits := unsigned_slot_inj (by decide) same
    cases v <;> cases w <;> first | rfl | cases bits
  all_goals
    first
    | exact congrArg _ (unsigned_slot_inj (by decide) same)
    | exact congrArg _ (signed_slot_inj (by decide) same)

theorem fixed_bytes_ext {v w : FixedBytes} (same : v.data = w.data) : v = w := by
  cases v
  cases w
  cases same
  rfl

theorem layouts_inj_on {values values' : List Abi}
    (each : ∀ v ∈ values, ∀ w ∈ values', v.layoutWith scalarSlot = w.layoutWith scalarSlot → v = w)
    (same : layoutsWith scalarSlot values = layoutsWith scalarSlot values') : values = values' := by
  induction values generalizing values' with
  | nil =>
      cases values' with
      | nil => rfl
      | cons w rest' => cases same
  | cons v rest ih =>
      cases values' with
      | nil => cases same
      | cons w rest' =>
          obtain ⟨first, later⟩ := List.cons.inj same
          rw [each v List.mem_cons_self w List.mem_cons_self first,
            ih (fun v member w member' =>
              each v (List.mem_cons_of_mem _ member) w (List.mem_cons_of_mem _ member')) later]

mutual
theorem layout_inj : (schema : Schema) → (v w : Abi) → HasSchema schema v → HasSchema schema w →
    v.layoutWith scalarSlot = w.layoutWith scalarSlot → v = w
  | .scalar _, .scalar v, .scalar w, type, type', same =>
      congrArg Abi.scalar (scalar_slot_inj (type.trans type'.symm) (Layout.word.inj same))
  | .fixedBytes _, .fixedBytes v, .fixedBytes w, width, width', same => by
      have padded : padRight v.data ++ [] = padRight w.data ++ [] := by
        rw [Layout.word.inj same]
      have data := (padRight_separates _ _ _ _ (width.trans width'.symm) padded).1
      exact congrArg Abi.fixedBytes (fixed_bytes_ext data)
  | .string, .string _, .string _, _, _, same => congrArg Abi.string (Layout.blob.inj same)
  | .bytes, .bytes _, .bytes _, _, _, same => congrArg Abi.bytes (Layout.blob.inj same)
  | .newtypeStruct inner, .newtypeStruct v, .newtypeStruct w, typed, typed', same =>
      congrArg Abi.newtypeStruct
        (layout_inj inner v w typed typed' (List.cons.inj (Layout.tuple.inj same)).1)
  | .compound _ schemas, .compound _ fields, .compound _ fields', typed, typed', same => by
      rw [← typed.1, ← typed'.1,
        layouts_inj schemas fields fields' typed.2 typed'.2 (Layout.tuple.inj same)]
  | .seq schema, .seq elements, .seq elements', typed, typed', same => by
      refine congrArg Abi.seq (layouts_inj_on (fun v member w member' => ?_) (Layout.array.inj same))
      exact layout_inj schema v w (typed v member) (typed' w member')

theorem layouts_inj : (schemas : List Schema) → (fields fields' : List Abi) →
    FieldsHaveSchema schemas fields → FieldsHaveSchema schemas fields' →
      layoutsWith scalarSlot fields = layoutsWith scalarSlot fields' → fields = fields'
  | [], [], [], _, _, _ => rfl
  | schema :: schemas, field :: fields, field' :: fields', typed, typed', same => by
      obtain ⟨first, rest⟩ := List.cons.inj same
      rw [layout_inj schema field field' typed.1 typed'.1 first,
        layouts_inj schemas fields fields' typed.2 typed'.2 rest]
end

theorem padRight_slot (v : FixedBytes) : (padRight v.data).length = 32 := by
  have nonempty := v.nonempty
  have short : v.data.length ≤ 32 := v.short
  rw [padRight_length, padding]
  omega

mutual
theorem schema_shape {range : Nat} (narrow : range ≤ 256 ^ 32) : (schema : Schema) → (v : Abi) →
    HasSchema schema v → v.lengthsFit range = true →
      HasShape schema.shape (v.layoutWith scalarSlot)
  | .scalar _, .scalar v, _, _ => scalar_slot_length v
  | .fixedBytes _, .fixedBytes v, _, _ => padRight_slot v
  | .string, .string _, _, lengths => Nat.lt_of_lt_of_le (of_decide_eq_true lengths) narrow
  | .bytes, .bytes _, _, lengths => Nat.lt_of_lt_of_le (of_decide_eq_true lengths) narrow
  | .newtypeStruct inner, .newtypeStruct v, typed, lengths =>
      ⟨schema_shape narrow inner v typed lengths, trivial⟩
  | .compound _ schemas, .compound _ fields, typed, lengths =>
      schemas_shape narrow schemas fields typed.2 lengths
  | .seq schema, .seq elements, typed, lengths => by
      simp only [Abi.lengthsFit, Bool.and_eq_true, decide_eq_true_eq] at lengths
      refine ⟨?_, fun layout member => ?_⟩
      · rw [layouts_length]
        exact Nat.lt_of_lt_of_le lengths.1 narrow
      · obtain ⟨v, inside, rfl⟩ := layouts_mem.mp member
        exact schema_shape narrow schema v (typed v inside) (all_lengths_fit.mp lengths.2 v inside)

theorem schemas_shape {range : Nat} (narrow : range ≤ 256 ^ 32) : (schemas : List Schema) →
    (fields : List Abi) → FieldsHaveSchema schemas fields → allLengthsFit range fields = true →
      FieldsHaveShape (shapes schemas) (layoutsWith scalarSlot fields)
  | [], [], _, _ => trivial
  | schema :: schemas, field :: fields, typed, lengths => by
      simp only [allLengthsFit, Bool.and_eq_true] at lengths
      exact ⟨schema_shape narrow schema field typed.1 lengths.1,
        schemas_shape narrow schemas fields typed.2 lengths.2⟩
end

end Layouts

/-- A stream that was written completely is the encoding up to the machine word
of the offsets. -/
theorem returned_stream {build : Build} {v : Abi} {writer : Writer}
    (lengths : v.lengthsFit build.usizeRange = true)
    (returned : v.toValue.toWriter build = (.ok (), writer)) :
    writer.stream = encodeWith (usizeSlot build) (.tuple [v.layoutWith scalarSlot]) := by
  have agrees : Agrees build.wrapping v.toValue (v.layoutWith scalarSlot) := abi_agrees v lengths
  have unchecked : v.toValue.toWriter build.wrapping = (.ok (), writer) :=
    Op.refines_ok (writer_refines (serialize_refines build v.toValue)) returned
  have announces : announced build.wrapping v.toValue = true := abi_announced v lengths
  rw [to_writer_run v.toValue (abi_clean v) announces (fits_wrapping build _)] at unchecked
  cases unchecked
  exact written_encoding agrees

theorem stream_determines (build : Build) (schema : Schema) (v w : Abi)
    (typed : HasSchema schema v) (typed' : HasSchema schema w)
    (lengths : v.lengthsFit build.usizeRange = true)
    (lengths' : w.lengthsFit build.usizeRange = true)
    (same : encodeWith (usizeSlot build) (.tuple [v.layoutWith scalarSlot]) =
      encodeWith (usizeSlot build) (.tuple [w.layoutWith scalarSlot])) : v = w := by
  have narrow : build.usizeRange ≤ 256 ^ 32 :=
    Nat.le_trans build.usize_range_le (by decide)
  have shaped : HasShape (.tuple [schema.shape]) (.tuple [v.layoutWith scalarSlot]) :=
    ⟨schema_shape narrow schema v typed lengths, trivial⟩
  have shaped' : HasShape (.tuple [schema.shape]) (.tuple [w.layoutWith scalarSlot]) :=
    ⟨schema_shape narrow schema w typed' lengths', trivial⟩
  have layouts := encode_with_inj usize_slot_length _ _ _ shaped shaped' same
  exact layout_inj schema v w typed typed' (List.cons.inj (Layout.tuple.inj layouts)).1

/-- The stream written for a value determines it among the values of its schema. -/
theorem to_writer_injective (build : Build) (schema : Schema) (v w : Abi)
    (typed : HasSchema schema v) (typed' : HasSchema schema w)
    (lengths : v.lengthsFit build.usizeRange = true)
    (lengths' : w.lengthsFit build.usizeRange = true) (writer writer' : Writer)
    (returned : v.toValue.toWriter build = (.ok (), writer))
    (returned' : w.toValue.toWriter build = (.ok (), writer'))
    (same : writer.stream = writer'.stream) : v = w := by
  rw [returned_stream lengths returned, returned_stream lengths' returned'] at same
  exact stream_determines build schema v w typed typed' lengths lengths' same

/-- Two spellings of a sequence with one string. -/
theorem to_writer_injective_strings :
    Abi.seq (List.replicate 1 (.string [0x61])) = .seq [.string ([] ++ [0x61])] := by
  have returned (v : Abi) (lengths : v.lengthsFit (256 ^ 4) = true)
      (small : totalSize v.toValue < 256 ^ 4) :=
    @to_writer_run ⟨.bits32, true⟩ v.toValue (abi_clean v) (abi_announced v lengths)
      (Build.fits_of_lt small)
  exact to_writer_injective ⟨.bits32, true⟩ (.seq .string) _ _ (by simp [HasSchema])
    (by simp [HasSchema]) (by decide) (by decide) _ _ (returned _ (by decide) (by decide))
    (returned _ (by decide) (by decide)) rfl

end Perun.AbiDecode
