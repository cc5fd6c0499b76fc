import Perun.HeadTail
import Perun.Ser

/-! What each pass of the serializer computes, as functions of the tree. The
size passes and the write passes are independent traversals in the source; here
each is related to one size or one list of slots, for every build and every tree
whose sizes fit. Offsets are residues: a build without overflow checks writes
the low machine word of an offset that is too large. -/
namespace Perun.Passes
open BigEndian HeadTail Ser

/-- One slot for each 32 bytes of data, the last one padded on the right. -/
def slots (v : List UInt8) : List (List UInt8) :=
  chunksExact v ++
    if (remainder v).isEmpty then [] else
      [remainder v ++ List.replicate (slotSize - (remainder v).length) 0]

def paddedLength (length : Nat) : Nat := length + padding length

/-- A `usize` in one slot. -/
def usizeSlot (build : Build) (n : Nat) : List UInt8 := number (n % build.usizeRange)

def signedSlot {bits : Nat} (v : BitVec bits) : List UInt8 :=
  List.replicate (slotSize - bits / 8) (if v.toInt < 0 then 0xff else 0x00) ++ toBeBytes v

def unsignedSlot {bits : Nat} (v : BitVec bits) : List UInt8 :=
  List.replicate (slotSize - bits / 8) 0 ++ toBeBytes v

def scalarSlot : Scalar → List UInt8
  | .bool v => unsignedSlot (if v then 1 else 0 : BitVec 8)
  | .i8 v => signedSlot v
  | .i16 v => signedSlot v
  | .i32 v => signedSlot v
  | .i64 v => signedSlot v
  | .i128 v => unsignedSlot v
  | .u8 v => unsignedSlot v
  | .u16 v => unsignedSlot v
  | .u32 v => unsignedSlot v
  | .u64 v => unsignedSlot v
  | .u128 v => unsignedSlot v

def isFake : Value → Bool
  | .unitStruct _ => true
  | _ => false

mutual
def isDynamic : Value → Bool
  | .scalar _ => false
  | .str _ => true
  | .bytes _ => false
  | .unitStruct _ => false
  | .newtypeStruct inner => isDynamic inner || isFake inner
  | .seq _ _ => true
  | .compound _ fields => fieldsDynamic fields
  | .unsupported _ _ => false

def fieldsDynamic : List Value → Bool
  | [] => false
  | field :: rest => (isDynamic field || isFake field) || fieldsDynamic rest
end

mutual
def headSize : Value → Nat
  | .scalar _ => slotSize
  | .str _ => 0
  | .bytes v => paddedLength v.length
  | .unitStruct _ => 0
  | .newtypeStruct inner => if isDynamic inner then slotSize else headSize inner
  | .seq _ elements => slotSize + fieldsHeadSize elements
  | .compound _ fields => fieldsHeadSize fields
  | .unsupported _ _ => 0

def fieldsHeadSize : List Value → Nat
  | [] => 0
  | field :: rest => (if isDynamic field then slotSize else headSize field) + fieldsHeadSize rest
end

mutual
def tailSize : Value → Nat
  | .scalar _ => 0
  | .str v => slotSize + paddedLength v.length
  | .bytes _ => 0
  | .unitStruct _ => 0
  | .newtypeStruct inner => (if isDynamic inner then headSize inner else 0) + tailSize inner
  | .seq _ elements => fieldsTailSize elements
  | .compound _ fields => fieldsTailSize fields
  | .unsupported _ _ => 0

def fieldsTailSize : List Value → Nat
  | [] => 0
  | field :: rest =>
      ((if isDynamic field then headSize field else 0) + tailSize field) + fieldsTailSize rest
end

def totalSize (value : Value) : Nat := headSize value + tailSize value

/-- How far the head pass of a value moves its own offset. -/
def advance : Value → Nat
  | .newtypeStruct inner => tailSize (.newtypeStruct inner)
  | .seq length elements => tailSize (.seq length elements)
  | .compound kind fields => tailSize (.compound kind fields)
  | _ => 0

/-- The part of a value's head that its offsets leave out. -/
def reserved : Value → Nat
  | .seq _ _ => slotSize
  | _ => 0

section Written
variable (build : Build)

mutual
def headSlots : Nat → Value → List (List UInt8)
  | _, .scalar v => [scalarSlot v]
  | _, .str _ => []
  | _, .bytes v => slots v
  | _, .unitStruct _ => []
  | offset, .newtypeStruct inner =>
      if isDynamic inner then [usizeSlot build offset] else headSlots build.usizeMax inner
  | offset, .seq length elements =>
      usizeSlot build (length.getD 0) :: fieldsHeadSlots slotSize offset elements
  | offset, .compound _ fields => fieldsHeadSlots 0 offset fields
  | _, .unsupported _ _ => []

def fieldsHeadSlots (reduction : Nat) : Nat → List Value → List (List UInt8)
  | _, [] => []
  | offset, field :: rest =>
      if isDynamic field then
        usizeSlot build (offset - reduction) ::
          fieldsHeadSlots reduction (offset + totalSize field) rest
      else headSlots build.usizeMax field ++ fieldsHeadSlots reduction offset rest
end

mutual
def tailSlots : Value → List (List UInt8)
  | .scalar _ => []
  | .str v => usizeSlot build v.length :: slots v
  | .bytes _ => []
  | .unitStruct _ => []
  | .newtypeStruct inner =>
      if isDynamic inner then headSlots build (headSize inner) inner ++ tailSlots inner else []
  | .seq _ elements => fieldsTailSlots elements
  | .compound _ fields => fieldsTailSlots fields
  | .unsupported _ _ => []

def fieldsTailSlots : List Value → List (List UInt8)
  | [] => []
  | field :: rest =>
      (if isDynamic field then headSlots build (headSize field) field ++ tailSlots field else []) ++
        fieldsTailSlots rest
end

end Written

mutual
/-- The error of the first node, in traversal order, that cannot be represented. -/
def firstError : Value → Option Error
  | .scalar _ => none
  | .str _ => none
  | .bytes _ => none
  | .unitStruct name =>
      if name = markDynamicName then none else some (.typeNotRepresentable "unit struct")
  | .newtypeStruct inner => firstError inner
  | .seq _ elements => firstErrorAmong elements
  | .compound _ fields => firstErrorAmong fields
  | .unsupported kind _ => some kind.error

def firstErrorAmong : List Value → Option Error
  | [] => none
  | field :: rest => (firstError field).or (firstErrorAmong rest)
end

mutual
/-- Every sequence announces a length, which is a `usize`. -/
def announced (build : Build) : Value → Bool
  | .newtypeStruct inner => announced build inner
  | .seq length elements =>
      (match length with
        | some n => decide (n < build.usizeRange)
        | none => false) && allAnnounced build elements
  | .compound _ fields => allAnnounced build fields
  | .scalar _ | .str _ | .bytes _ | .unitStruct _ | .unsupported _ _ => true

def allAnnounced (build : Build) : List Value → Bool
  | [] => true
  | field :: rest => announced build field && allAnnounced build rest
end

theorem fake_not_dynamic (value : Value) (fake : isFake value = true) :
    isDynamic value = false := by
  cases value <;> simp_all [isFake, isDynamic]

variable {build : Build}

theorem write_run (written : List (List UInt8)) (pass : Pass) (slot : List UInt8) :
    write slot ⟨.chunks written, pass⟩ = (.ok (), ⟨.chunks (written ++ [slot]), pass⟩) := rfl

theorem write_right_aligned_run (written : List (List UInt8)) (pass : Pass) (v : List UInt8)
    (short : v.length ≤ slotSize) :
    writeRightAligned v ⟨.chunks written, pass⟩ =
      (.ok (), ⟨.chunks (written ++ [List.replicate (slotSize - v.length) 0 ++ v]), pass⟩) := by
  rw [writeRightAligned, if_pos short, write_run]

-- Both machine widths give the same slot.
theorem write_usize_run (written : List (List UInt8)) (pass : Pass) (n : Nat) :
    writeRightAligned (build.usizeToBeBytes n) ⟨.chunks written, pass⟩ =
      (.ok (), ⟨.chunks (written ++ [usizeSlot build n]), pass⟩) := by
  have narrow := build.usize_bytes_le
  have bound : n % build.usizeRange < 256 ^ build.usizeBytes :=
    Nat.mod_lt _ (by unfold Build.usizeRange; positivity)
  have width : slotSize - build.usizeBytes + build.usizeBytes = 32 := by
    unfold slotSize
    omega
  have slot : List.replicate (slotSize - build.usizeBytes) 0 ++ build.usizeToBeBytes n =
      usizeSlot build n := by
    rw [usizeSlot, number, ← width, bigEndian_zero_extend _ _ _ bound, Build.usizeRange,
      bigEndian_mod, Build.usizeToBeBytes]
  rw [write_right_aligned_run, Build.usize_to_be_bytes_length, slot]
  rw [Build.usize_to_be_bytes_length]
  unfold slotSize
  omega

theorem write_each_run (written chunks : List (List UInt8)) (pass : Pass) :
    writeEach chunks ⟨.chunks written, pass⟩ =
      (.ok (), ⟨.chunks (written ++ chunks), pass⟩) := by
  induction chunks generalizing written with
  | nil => simp [writeEach]
  | cons chunk rest ih =>
      rw [writeEach, Op.bind_ok (write_run written pass chunk), ih]
      simp

theorem remainder_length (v : List UInt8) : (remainder v).length = v.length % slotSize := by
  have decomposed := Nat.div_add_mod v.length slotSize
  rw [remainder, List.length_drop]
  omega

theorem write_slots_run (written : List (List UInt8)) (pass : Pass) (v : List UInt8) :
    writeSlots v ⟨.chunks written, pass⟩ = (.ok (), ⟨.chunks (written ++ slots v), pass⟩) := by
  rw [writeSlots, Op.bind_ok (write_each_run written (chunksExact v) pass), slots]
  by_cases complete : (remainder v).isEmpty = true
  · simp [complete]
  · have short : (remainder v).length ≤ slotSize := by
      rw [remainder_length]
      exact Nat.le_of_lt (Nat.mod_lt _ (by decide))
    rw [if_neg complete, if_neg complete, writeLeftAlignedSlice, if_pos short, write_run,
      List.append_assoc]

/-! One member of a tuple or sequence, given what its own size passes return. -/
section Element
variable {value : Serialize} {size tail : Nat} {dynamic fake : Bool}

theorem element_fails (reduction : Nat) (ser : Serializer) (error : Error)
    (failed : computeSize value = .err error) :
    serializeTupleElement build value reduction ser = (.err error, ser) := by
  rcases ser with ⟨writer, pass⟩
  cases pass <;> simp [serializeTupleElement, Op.bind_run, failed]

theorem element_head_static (reduction : Nat) (writer : Writer) (offset : Nat)
    (sized : computeSize value = .ok (size, false, fake)) :
    serializeTupleElement build value reduction ⟨writer, .head offset⟩ =
      serializeIn value (.head build.usizeMax) ⟨writer, .head offset⟩ := by
  simp [serializeTupleElement, Op.bind_run, sized]

theorem element_tail_static (reduction : Nat) (writer : Writer)
    (sized : computeSize value = .ok (size, false, fake)) :
    serializeTupleElement build value reduction ⟨writer, .tail⟩ = (.ok (), ⟨writer, .tail⟩) := by
  simp [serializeTupleElement, Op.bind_run, sized]

theorem element_tail_dynamic (reduction : Nat) (writer : Writer)
    (sized : computeSize value = .ok (size, true, false)) :
    serializeTupleElement build value reduction ⟨writer, .tail⟩ =
      (serializeIn value (.head size) >>= fun _ => serializeIn value .tail) ⟨writer, .tail⟩ := by
  simp [serializeTupleElement, Op.bind_run, sized]

theorem element_head_dynamic (reduction : Nat) (written : List (List UInt8)) (offset : Nat)
    (sized : computeSize value = .ok (size % build.usizeRange, true, false))
    (tailed : getTailSize value = .ok (tail % build.usizeRange))
    (reduced : reduction ≤ offset) (small : reduction < build.usizeRange)
    (fits : build.Fits (offset + (size + tail))) :
    serializeTupleElement build value reduction
        ⟨.chunks written, .head (offset % build.usizeRange)⟩ =
      (.ok (), ⟨.chunks (written ++ [usizeSlot build (offset - reduction)]),
        .head ((offset + (size + tail)) % build.usizeRange)⟩) := by
  have position : (build.sub (offset % build.usizeRange) reduction : Outcome Error Nat) =
      .ok ((offset - reduction) % build.usizeRange) :=
    Build.sub_residues (Build.fits_of_le fits (by omega)) reduced small
  have first : (build.add (offset % build.usizeRange) (size % build.usizeRange) :
      Outcome Error Nat) = .ok ((offset + size) % build.usizeRange) :=
    Build.add_residues (Build.fits_of_le fits (by omega))
  have second : (build.add ((offset + size) % build.usizeRange) (tail % build.usizeRange) :
      Outcome Error Nat) = .ok ((offset + (size + tail)) % build.usizeRange) := by
    rw [Build.add_residues (by rwa [Nat.add_assoc]), Nat.add_assoc]
  have slot : usizeSlot build ((offset - reduction) % build.usizeRange) =
      usizeSlot build (offset - reduction) := by
    rw [usizeSlot, usizeSlot, Nat.mod_mod]
  simp [serializeTupleElement, Op.bind_run, sized, position, write_usize_run, slot, first, tailed,
    second, setPass]

variable (sized : computeSize value = .ok (size % build.usizeRange, dynamic, fake))
  (exclusive : dynamic = true → fake = false)
include sized exclusive

theorem element_head_size (reduction : Nat) (writer : Writer) (before : Nat) (d f : Bool)
    (fits : build.Fits (before + if dynamic then slotSize else size)) :
    serializeTupleElement build value reduction
        ⟨writer, .headSize (before % build.usizeRange) d f⟩ =
      (.ok (), ⟨writer, .headSize ((before + if dynamic then slotSize else size) %
        build.usizeRange) (d || (dynamic || fake)) f⟩) := by
  cases dynamic with
  | true =>
      have added : (build.add (before % build.usizeRange) slotSize : Outcome Error Nat) =
          .ok ((before + slotSize) % build.usizeRange) := Build.add_residue fits
      simp [serializeTupleElement, Op.bind_run, sized, exclusive rfl, added, setPass]
  | false =>
      have added : (build.add (before % build.usizeRange) (size % build.usizeRange) :
          Outcome Error Nat) = .ok ((before + size) % build.usizeRange) := Build.add_residues fits
      simp [serializeTupleElement, Op.bind_run, sized, added, setPass]

theorem element_tail_size (reduction : Nat) (writer : Writer) (before : Nat)
    (tailed : getTailSize value = .ok (tail % build.usizeRange))
    (fits : build.Fits (before + ((if dynamic then size else 0) + tail))) :
    serializeTupleElement build value reduction
        ⟨writer, .tailSize (before % build.usizeRange)⟩ =
      (.ok (), ⟨writer, .tailSize ((before + ((if dynamic then size else 0) + tail)) %
        build.usizeRange)⟩) := by
  cases dynamic with
  | true =>
      have first : (build.add (before % build.usizeRange) (size % build.usizeRange) :
          Outcome Error Nat) = .ok ((before + size) % build.usizeRange) :=
        Build.add_residues (Build.fits_of_le fits (by simp))
      have second : (build.add ((before + size) % build.usizeRange) (tail % build.usizeRange) :
          Outcome Error Nat) = .ok ((before + (size + tail)) % build.usizeRange) := by
        rw [Build.add_residues (by rwa [Nat.add_assoc]), Nat.add_assoc]
      simp [serializeTupleElement, Op.bind_run, sized, exclusive rfl, tailed, first, second,
        setPass]
  | false =>
      have first : (build.add (before % build.usizeRange) 0 : Outcome Error Nat) =
          .ok (before % build.usizeRange) :=
        Build.add_residue (Build.fits_of_le fits (by simp))
      have second : (build.add (before % build.usizeRange) (tail % build.usizeRange) :
          Outcome Error Nat) = .ok ((before + tail) % build.usizeRange) :=
        Build.add_residues (Build.fits_of_le fits (by simp))
      simp [serializeTupleElement, Op.bind_run, sized, tailed, first, second, setPass]

end Element

/-! Sizes of the leaves. -/

theorem padded_eq (length : Nat) :
    length - length % slotSize + (if length % slotSize = 0 then 0 else slotSize) =
      paddedLength length := by
  unfold paddedLength padding slotSize
  split <;> omega

theorem padded_size_eq {length : Nat} (fits : build.Fits (paddedLength length)) :
    paddedSize build length = .ok (paddedLength length % build.usizeRange) := by
  rw [← padded_eq] at fits ⊢
  exact Build.add_eq fits

/-- The two additions with which `serialize_str` counts its tail. -/
theorem string_size_eq {length : Nat} (fits : build.Fits (slotSize + paddedLength length)) :
    (build.add slotSize (length - length % slotSize) : Outcome Error Nat) =
        .ok ((slotSize + (length - length % slotSize)) % build.usizeRange) ∧
      (build.add ((slotSize + (length - length % slotSize)) % build.usizeRange)
        (if length % slotSize = 0 then 0 else slotSize) : Outcome Error Nat) =
        .ok ((slotSize + paddedLength length) % build.usizeRange) := by
  have sum : slotSize + (length - length % slotSize) +
      (if length % slotSize = 0 then 0 else slotSize) = slotSize + paddedLength length := by
    rw [Nat.add_assoc, padded_eq]
  rw [← sum] at fits ⊢
  constructor
  · exact Build.add_eq (Build.fits_of_le fits (Nat.le_add_right _ _))
  · exact Build.add_residue fits

/-- Every integer method is the shared slot body around one way to fill it. -/
theorem scalar_fill (build : Build) (v : Scalar) : ∃ fill : Serialize,
    v.serialize build = serializeSlot build fill ∧
      ∀ written pass, fill ⟨.chunks written, pass⟩ =
        (.ok (), ⟨.chunks (written ++ [scalarSlot v]), pass⟩) := by
  have right {bits : Nat} (v : BitVec bits) (narrow : bits / 8 ≤ slotSize)
    (written : List (List UInt8))
      (pass : Pass) : writeRightAligned (toBeBytes v) ⟨.chunks written, pass⟩ =
        (.ok (), ⟨.chunks (written ++ [unsignedSlot v]), pass⟩) := by
    have width : (toBeBytes v).length = bits / 8 := bigEndian_length _ _
    rw [write_right_aligned_run _ _ _ (by rw [width]; exact narrow), width, unsignedSlot]
  have signed {bits : Nat} (v : BitVec bits) (narrow : bits / 8 ≤ slotSize)
    (written : List (List UInt8))
      (pass : Pass) : writeSigned (v.toInt < 0) (toBeBytes v) ⟨.chunks written, pass⟩ =
        (.ok (), ⟨.chunks (written ++ [signedSlot v]), pass⟩) := by
    have width : (toBeBytes v).length = bits / 8 := bigEndian_length _ _
    simp only [writeSigned, width, narrow, ↓reduceIte, write_run, signedSlot, decide_eq_true_eq]
  cases v with
  | bool v => exact ⟨_, rfl, right _ (by decide)⟩
  | i8 v => exact ⟨_, rfl, signed v (by decide)⟩
  | i16 v => exact ⟨_, rfl, signed v (by decide)⟩
  | i32 v => exact ⟨_, rfl, signed v (by decide)⟩
  | i64 v => exact ⟨_, rfl, signed v (by decide)⟩
  | i128 v => exact ⟨_, rfl, right v (by decide)⟩
  | u8 v => exact ⟨_, rfl, right v (by decide)⟩
  | u16 v => exact ⟨_, rfl, right v (by decide)⟩
  | u32 v => exact ⟨_, rfl, right v (by decide)⟩
  | u64 v => exact ⟨_, rfl, right v (by decide)⟩
  | u128 v => exact ⟨_, rfl, right v (by decide)⟩

theorem exclusive_flags (value : Value) (dynamic : isDynamic value = true) :
    isFake value = false := by
  cases fake : isFake value with
  | false => rfl
  | true => rw [fake_not_dynamic value fake] at dynamic; contradiction

theorem first_error_cons (field : Value) (rest : List Value) :
    firstErrorAmong (field :: rest) = none ↔
      firstError field = none ∧ firstErrorAmong rest = none := by
  rw [firstErrorAmong, Option.or_eq_none_iff]

-- A member is never larger than the whole.
theorem total_le_fields (field : Value) (rest : List Value) :
    totalSize field ≤ fieldsHeadSize (field :: rest) + fieldsTailSize (field :: rest) := by
  cases dynamic : isDynamic field <;> simp [totalSize, fieldsHeadSize, fieldsTailSize, dynamic] <;>
    omega

theorem rest_le_fields (field : Value) (rest : List Value) :
    fieldsHeadSize rest + fieldsTailSize rest ≤
      fieldsHeadSize (field :: rest) + fieldsTailSize (field :: rest) := by
  rw [fieldsHeadSize, fieldsTailSize]
  omega

-- A newtype struct is a tuple with one field.
theorem newtype_serialize (inner : Value) :
    (Value.newtypeStruct inner).serialize build = serializeElements build 0 [inner] := by
  funext ser
  rw [Value.serialize, serializeNewtypeStruct, serializeElements, serializeElements, Op.bind_run]
  rcases serializeTupleElement build (inner.serialize build) 0 ser with ⟨result, after⟩
  cases result <;> rfl

theorem newtype_head_size (inner : Value) :
    headSize (.newtypeStruct inner) = fieldsHeadSize [inner] := by
  simp [headSize, fieldsHeadSize]

theorem newtype_tail_size (inner : Value) :
    tailSize (.newtypeStruct inner) = fieldsTailSize [inner] := by
  simp [tailSize, fieldsTailSize]

theorem newtype_total (inner : Value) :
    totalSize (.newtypeStruct inner) = fieldsHeadSize [inner] + fieldsTailSize [inner] := by
  rw [totalSize, newtype_head_size, newtype_tail_size]

theorem newtype_first_error {inner : Value} (clean : firstError (.newtypeStruct inner) = none) :
    firstErrorAmong [inner] = none :=
  (first_error_cons inner []).mpr ⟨clean, rfl⟩

theorem only_member {motive : Value → Prop} {inner : Value} (holds : motive inner) :
    ∀ value ∈ [inner], motive value := by
  intro value member
  rw [List.mem_singleton.mp member]
  exact holds

/-! The head size pass. -/
section HeadSizePass

def HeadSizeSpec (build : Build) (value : Value) : Prop :=
  ∀ writer before d f, build.Fits (before + headSize value) →
    value.serialize build ⟨writer, .headSize (before % build.usizeRange) d f⟩ =
      (.ok (), ⟨writer, .headSize ((before + headSize value) % build.usizeRange)
        (d || isDynamic value) (f || isFake value)⟩)

theorem compute_size_of_spec {value : Value} (spec : HeadSizeSpec build value)
    (fits : build.Fits (headSize value)) :
    computeSize (value.serialize build) =
      .ok (headSize value % build.usizeRange, isDynamic value, isFake value) := by
  have run := spec .noWriter 0 false false (by rwa [Nat.zero_add])
  rw [Nat.zero_mod, Nat.zero_add] at run
  simp [computeSize, run]

theorem elements_head_size (reduction : Nat) (elements : List Value)
    (each : ∀ element ∈ elements, firstError element = none → build.Fits (totalSize element) →
      HeadSizeSpec build element)
    (clean : firstErrorAmong elements = none)
    (fits : build.Fits (fieldsHeadSize elements + fieldsTailSize elements))
    (writer : Writer) (before : Nat) (d f : Bool)
    (room : build.Fits (before + fieldsHeadSize elements)) :
    serializeElements build reduction elements
        ⟨writer, .headSize (before % build.usizeRange) d f⟩ =
      (.ok (), ⟨writer, .headSize ((before + fieldsHeadSize elements) % build.usizeRange)
        (d || fieldsDynamic elements) f⟩) := by
  induction elements generalizing before d with
  | nil => simp [serializeElements, fieldsHeadSize, fieldsDynamic]
  | cons element rest ih =>
      have cleaned := (first_error_cons element rest).mp clean
      have elementFits := Build.fits_of_le fits (total_le_fields element rest)
      have sized := compute_size_of_spec (each element List.mem_cons_self cleaned.1 elementFits)
        (Build.fits_of_le elementFits (Nat.le_add_right _ _))
      have later := ih (fun e member => each e (List.mem_cons_of_mem element member)) cleaned.2
        (Build.fits_of_le fits (rest_le_fields element rest))
        (before + if isDynamic element then slotSize else headSize element)
        (d || (isDynamic element || isFake element))
        (by rwa [fieldsHeadSize, ← Nat.add_assoc] at room)
      have first := element_head_size sized (exclusive_flags element) reduction writer before d f
        (Build.fits_of_le room (by rw [fieldsHeadSize]; omega))
      rw [serializeElements, Op.bind_ok first, later, fieldsHeadSize, fieldsDynamic, Nat.add_assoc,
        Bool.or_assoc]

theorem head_size_pass (value : Value) (clean : firstError value = none)
    (fits : build.Fits (totalSize value)) : HeadSizeSpec build value := by
  induction value using Value.induction with
  | scalar v =>
      intro writer before d f room
      obtain ⟨fill, shape, _⟩ := scalar_fill build v
      have added : (build.add (before % build.usizeRange) slotSize : Outcome Error Nat) =
          .ok ((before + slotSize) % build.usizeRange) := Build.add_residue room
      simp [Value.serialize, shape, serializeSlot, Op.bind_run, added, setPass, headSize, isDynamic,
        isFake]
  | str v =>
      intro writer before d f room
      simp [Value.serialize, serializeStr, Op.bind_run, setPass, headSize, isDynamic, isFake]
  | bytes v =>
      intro writer before d f room
      have padded : paddedSize build v.length = .ok (paddedLength v.length % build.usizeRange) :=
        padded_size_eq (Build.fits_of_le room (Nat.le_add_left _ _))
      have added : (build.add (before % build.usizeRange)
          (paddedLength v.length % build.usizeRange) : Outcome Error Nat) =
          .ok ((before + paddedLength v.length) % build.usizeRange) := Build.add_residues room
      simp [Value.serialize, serializeBytes, Op.bind_run, padded, added, setPass, headSize,
        isDynamic, isFake]
  | unitStruct name =>
      intro writer before d f room
      by_cases marker : name = markDynamicName
      · simp [Value.serialize, serializeUnitStruct, Op.bind_run, marker, setPass, headSize,
          isDynamic, isFake]
      · simp [firstError, marker] at clean
  | newtypeStruct inner ih =>
      intro writer before d f room
      have run := elements_head_size 0 [inner] (only_member ih) (newtype_first_error clean)
        (newtype_total inner ▸ fits) writer before d f (newtype_head_size inner ▸ room)
      rw [newtype_serialize, run, newtype_head_size]
      simp [fieldsDynamic, isDynamic, isFake]
  | seq length elements ih =>
      intro writer before d f room
      have added : (build.add (before % build.usizeRange) slotSize : Outcome Error Nat) =
          .ok ((before + slotSize) % build.usizeRange) :=
        Build.add_residue (Build.fits_of_le room (by rw [headSize]; omega))
      have announce : serializeSeq build length
          ⟨writer, .headSize (before % build.usizeRange) d f⟩ =
          (.ok (), ⟨writer, .headSize ((before + slotSize) % build.usizeRange) true f⟩) := by
        simp [serializeSeq, Op.bind_run, added, setPass]
      have rest := elements_head_size slotSize elements ih clean
        (Build.fits_of_le fits (by rw [totalSize, headSize, tailSize]; omega)) writer
        (before + slotSize) true f (by rwa [headSize, ← Nat.add_assoc] at room)
      rw [Value.serialize, Op.bind_ok announce, rest, headSize, ← Nat.add_assoc]
      simp [isDynamic, isFake]
  | compound kind fields ih =>
      intro writer before d f room
      rw [Value.serialize, elements_head_size 0 fields ih clean fits writer before d f room,
        headSize, isDynamic]
      simp [isFake]
  | unsupported kind payload => simp [firstError] at clean

theorem compute_size_eq (value : Value) (clean : firstError value = none)
    (fits : build.Fits (totalSize value)) :
    computeSize (value.serialize build) =
      .ok (headSize value % build.usizeRange, isDynamic value, isFake value) :=
  compute_size_of_spec (head_size_pass value clean fits)
    (Build.fits_of_le fits (Nat.le_add_right _ _))

end HeadSizePass

/-! The tail size pass. -/
section TailSizePass

def TailSizeSpec (build : Build) (value : Value) : Prop :=
  ∀ writer before, build.Fits (before + tailSize value) →
    value.serialize build ⟨writer, .tailSize (before % build.usizeRange)⟩ =
      (.ok (), ⟨writer, .tailSize ((before + tailSize value) % build.usizeRange)⟩)

theorem tail_size_of_spec {value : Value} (spec : TailSizeSpec build value)
    (fits : build.Fits (tailSize value)) :
    getTailSize (value.serialize build) = .ok (tailSize value % build.usizeRange) := by
  have run := spec .noWriter 0 (by rwa [Nat.zero_add])
  rw [Nat.zero_mod, Nat.zero_add] at run
  simp [getTailSize, run]

theorem elements_tail_size (reduction : Nat) (elements : List Value)
    (each : ∀ element ∈ elements, firstError element = none → build.Fits (totalSize element) →
      TailSizeSpec build element)
    (clean : firstErrorAmong elements = none)
    (fits : build.Fits (fieldsHeadSize elements + fieldsTailSize elements))
    (writer : Writer) (before : Nat) (room : build.Fits (before + fieldsTailSize elements)) :
    serializeElements build reduction elements ⟨writer, .tailSize (before % build.usizeRange)⟩ =
      (.ok (), ⟨writer, .tailSize ((before + fieldsTailSize elements) % build.usizeRange)⟩) := by
  induction elements generalizing before with
  | nil => simp [serializeElements, fieldsTailSize]
  | cons element rest ih =>
      have cleaned := (first_error_cons element rest).mp clean
      have elementFits := Build.fits_of_le fits (total_le_fields element rest)
      have sized := compute_size_eq element cleaned.1 elementFits
      have tailed := tail_size_of_spec (each element List.mem_cons_self cleaned.1 elementFits)
        (Build.fits_of_le elementFits (Nat.le_add_left _ _))
      have first := element_tail_size sized (exclusive_flags element) reduction writer before tailed
        (Build.fits_of_le room (by rw [fieldsTailSize]; omega))
      have later := ih (fun e member => each e (List.mem_cons_of_mem element member)) cleaned.2
        (Build.fits_of_le fits (rest_le_fields element rest))
        (before + ((if isDynamic element then headSize element else 0) + tailSize element))
        (by rwa [fieldsTailSize, ← Nat.add_assoc] at room)
      rw [serializeElements, Op.bind_ok first, later, fieldsTailSize, Nat.add_assoc]

theorem tail_size_pass (value : Value) (clean : firstError value = none)
    (fits : build.Fits (totalSize value)) : TailSizeSpec build value := by
  induction value using Value.induction with
  | scalar v =>
      intro writer before room
      obtain ⟨fill, shape, _⟩ := scalar_fill build v
      simp [Value.serialize, shape, serializeSlot, Op.bind_run, tailSize]
  | str v =>
      intro writer before room
      obtain ⟨first, second⟩ := string_size_eq (Build.fits_of_le room (Nat.le_add_left _ _))
      have third : (build.add (before % build.usizeRange)
          ((slotSize + paddedLength v.length) % build.usizeRange) : Outcome Error Nat) =
          .ok ((before + (slotSize + paddedLength v.length)) % build.usizeRange) :=
        Build.add_residues room
      simp only [Value.serialize, serializeStr, Op.bind_run, Op.get_run, Op.lift_run, first, second,
        third, setPass, Op.modify_run, tailSize]
  | bytes v =>
      intro writer before room
      simp [Value.serialize, serializeBytes, Op.bind_run, tailSize]
  | unitStruct name =>
      intro writer before room
      by_cases marker : name = markDynamicName
      · simp [Value.serialize, serializeUnitStruct, Op.bind_run, marker, tailSize]
      · simp [firstError, marker] at clean
  | newtypeStruct inner ih =>
      intro writer before room
      have run := elements_tail_size 0 [inner] (only_member ih) (newtype_first_error clean)
        (newtype_total inner ▸ fits) writer before (newtype_tail_size inner ▸ room)
      rw [newtype_serialize, run, newtype_tail_size]
  | seq length elements ih =>
      intro writer before room
      have announce : serializeSeq build length ⟨writer, .tailSize (before % build.usizeRange)⟩ =
          (.ok (), ⟨writer, .tailSize (before % build.usizeRange)⟩) := by
        simp [serializeSeq, Op.bind_run]
      rw [Value.serialize, Op.bind_ok announce, elements_tail_size slotSize elements ih clean
        (Build.fits_of_le fits (by rw [totalSize, headSize, tailSize]; omega)) writer before room,
        tailSize]
  | compound kind fields ih =>
      intro writer before room
      rw [Value.serialize, elements_tail_size 0 fields ih clean fits writer before room, tailSize]
  | unsupported kind payload => simp [firstError] at clean

theorem get_tail_size_eq (value : Value) (clean : firstError value = none)
    (fits : build.Fits (totalSize value)) :
    getTailSize (value.serialize build) = .ok (tailSize value % build.usizeRange) :=
  tail_size_of_spec (tail_size_pass value clean fits)
    (Build.fits_of_le fits (Nat.le_add_left _ _))

end TailSizePass

/-! The head pass. A static member is written with the sentinel offset, which it
never reads: its own pass leaves the offset where it was. -/
section HeadPass

theorem static_tail_size (value : Value) (static : isDynamic value = false) :
    tailSize value = 0 := by
  have among (fields : List Value)
      (each : ∀ field ∈ fields, isDynamic field = false → tailSize field = 0)
      (static : fieldsDynamic fields = false) : fieldsTailSize fields = 0 := by
    induction fields with
    | nil => rfl
    | cons field rest ih =>
        simp only [fieldsDynamic, Bool.or_eq_false_iff] at static
        have first := each field List.mem_cons_self static.1.1
        have later := ih (fun f member => each f (List.mem_cons_of_mem field member)) static.2
        simp [fieldsTailSize, static.1.1, first, later]
  induction value using Value.induction with
  | scalar v => rfl
  | str v => simp [isDynamic] at static
  | bytes v => rfl
  | unitStruct name => rfl
  | newtypeStruct inner ih =>
      simp only [isDynamic, Bool.or_eq_false_iff] at static
      simp [tailSize, static.1, ih static.1]
  | seq length elements ih => simp [isDynamic] at static
  | compound kind fields ih => exact among fields ih static
  | unsupported kind payload => rfl

theorem advance_le_tail (value : Value) : advance value ≤ tailSize value := by
  cases value <;> simp [advance]

theorem static_advance (value : Value) (static : isDynamic value = false) :
    advance value = 0 :=
  Nat.le_zero.mp (static_tail_size value static ▸ advance_le_tail value)

theorem static_reserved (value : Value) (static : isDynamic value = false) :
    reserved value = 0 := by
  cases value <;> simp_all [reserved, isDynamic]

theorem reserved_le_head (value : Value) : reserved value ≤ headSize value := by
  cases value <;> simp [reserved, headSize]

theorem announced_cons (field : Value) (rest : List Value) :
    allAnnounced build (field :: rest) = true ↔
      announced build field = true ∧ allAnnounced build rest = true := by
  rw [allAnnounced, Bool.and_eq_true]

def HeadSpec (build : Build) (value : Value) : Prop :=
  ∀ written offset, reserved value ≤ offset → build.Fits (offset + advance value) →
    value.serialize build ⟨.chunks written, .head (offset % build.usizeRange)⟩ =
      (.ok (), ⟨.chunks (written ++ headSlots build offset value),
        .head ((offset + advance value) % build.usizeRange)⟩)

theorem usize_max_residue : build.usizeMax % build.usizeRange = build.usizeMax := by
  have large := build.usize_range_ge
  exact Nat.mod_eq_of_lt (by unfold Build.usizeMax; omega)

theorem static_head_run {value : Value} (spec : HeadSpec build value)
    (static : isDynamic value = false) (written : List (List UInt8)) (pass : Pass) :
    serializeIn (value.serialize build) (.head build.usizeMax) ⟨.chunks written, pass⟩ =
      (.ok (), ⟨.chunks (written ++ headSlots build build.usizeMax value), pass⟩) := by
  have large := build.usize_range_ge
  have sentinel := spec written build.usizeMax (by rw [static_reserved value static]; omega)
    (Build.fits_of_lt (by rw [static_advance value static]; unfold Build.usizeMax; omega))
  rw [usize_max_residue] at sentinel
  simp [serializeIn, sentinel]

theorem elements_head (reduction : Nat) (elements : List Value)
    (each : ∀ element ∈ elements, firstError element = none → announced build element = true →
      build.Fits (totalSize element) → HeadSpec build element)
    (clean : firstErrorAmong elements = none) (lengths : allAnnounced build elements = true)
    (fits : build.Fits (fieldsHeadSize elements + fieldsTailSize elements))
    (small : reduction < build.usizeRange) (written : List (List UInt8)) (offset : Nat)
    (reduced : reduction ≤ offset) (room : build.Fits (offset + fieldsTailSize elements)) :
    serializeElements build reduction elements
        ⟨.chunks written, .head (offset % build.usizeRange)⟩ =
      (.ok (), ⟨.chunks (written ++ fieldsHeadSlots build reduction offset elements),
        .head ((offset + fieldsTailSize elements) % build.usizeRange)⟩) := by
  induction elements generalizing written offset with
  | nil => simp [serializeElements, fieldsHeadSlots, fieldsTailSize]
  | cons element rest ih =>
      have cleaned := (first_error_cons element rest).mp clean
      have measured := (announced_cons element rest).mp lengths
      have elementFits := Build.fits_of_le fits (total_le_fields element rest)
      have sized := compute_size_eq element cleaned.1 elementFits
      have restSpec := ih (fun e member => each e (List.mem_cons_of_mem element member)) cleaned.2
        measured.2 (Build.fits_of_le fits (rest_le_fields element rest))
      cases dynamic : isDynamic element with
      | true =>
          rw [dynamic, exclusive_flags element dynamic] at sized
          have tailed := get_tail_size_eq element cleaned.1 elementFits
          have sum : fieldsTailSize (element :: rest) =
              headSize element + tailSize element + fieldsTailSize rest := by
            simp [fieldsTailSize, dynamic]
          have first := element_head_dynamic reduction written offset sized tailed reduced small
            (Build.fits_of_le room (by rw [sum]; omega))
          have later := restSpec (written ++ [usizeSlot build (offset - reduction)])
            (offset + (headSize element + tailSize element)) (by omega)
            (by rwa [sum, ← Nat.add_assoc] at room)
          rw [serializeElements, Op.bind_ok first, later, fieldsHeadSlots, if_pos dynamic, sum,
            totalSize, List.append_assoc, Nat.add_assoc offset]
          rfl
      | false =>
          rw [dynamic] at sized
          have spec := each element List.mem_cons_self cleaned.1 measured.1 elementFits
          have first : serializeTupleElement build (element.serialize build) reduction
              ⟨.chunks written, .head (offset % build.usizeRange)⟩ =
              (.ok (), ⟨.chunks (written ++ headSlots build build.usizeMax element),
                .head (offset % build.usizeRange)⟩) := by
            rw [element_head_static reduction _ _ sized, static_head_run spec dynamic]
          have sum : fieldsTailSize (element :: rest) = fieldsTailSize rest := by
            simp [fieldsTailSize, dynamic, static_tail_size element dynamic]
          have later := restSpec (written ++ headSlots build build.usizeMax element) offset reduced
            (by rwa [sum] at room)
          rw [serializeElements, Op.bind_ok first, later, fieldsHeadSlots, sum]
          simp [dynamic]

theorem head_pass (value : Value) (clean : firstError value = none)
    (lengths : announced build value = true) (fits : build.Fits (totalSize value)) :
    HeadSpec build value := by
  have small := build.usize_range_ge
  induction value using Value.induction with
  | scalar v =>
      intro written offset _ _
      obtain ⟨fill, shape, filled⟩ := scalar_fill build v
      simp [Value.serialize, shape, serializeSlot, Op.bind_run, filled, headSlots, advance]
  | str v =>
      intro written offset _ _
      simp [Value.serialize, serializeStr, Op.bind_run, headSlots, advance]
  | bytes v =>
      intro written offset _ _
      simp [Value.serialize, serializeBytes, Op.bind_run, write_slots_run, headSlots, advance]
  | unitStruct name =>
      intro written offset _ _
      by_cases marker : name = markDynamicName
      · simp [Value.serialize, serializeUnitStruct, Op.bind_run, marker, headSlots, advance]
      · simp [firstError, marker] at clean
  | newtypeStruct inner ih =>
      intro written offset _ room
      have run := elements_head 0 [inner] (only_member ih) (newtype_first_error clean)
        ((announced_cons inner []).mpr ⟨lengths, rfl⟩) (newtype_total inner ▸ fits) (by omega)
        written offset (Nat.zero_le _) (newtype_tail_size inner ▸ room)
      rw [newtype_serialize, run, advance, newtype_tail_size]
      simp [fieldsHeadSlots, headSlots]
  | seq length elements ih =>
      intro written offset reduced room
      cases length with
      | none => simp [announced] at lengths
      | some n =>
          simp only [announced, Bool.and_eq_true] at lengths
          have announce : serializeSeq build (some n)
              ⟨.chunks written, .head (offset % build.usizeRange)⟩ =
              (.ok (), ⟨.chunks (written ++ [usizeSlot build n]),
                .head (offset % build.usizeRange)⟩) := by
            simp [serializeSeq, Op.bind_run, write_usize_run]
          have run := elements_head slotSize elements ih clean lengths.2
            (Build.fits_of_le fits (by rw [totalSize, headSize, tailSize]; omega))
            (by unfold slotSize; omega) (written ++ [usizeSlot build n]) offset reduced room
          rw [Value.serialize, Op.bind_ok announce, run, advance, tailSize, headSlots]
          simp
  | compound kind fields ih =>
      intro written offset _ room
      rw [Value.serialize, elements_head 0 fields ih clean lengths fits (by omega) written offset
        (Nat.zero_le _) room, advance, tailSize, headSlots]
  | unsupported kind payload => simp [firstError] at clean

end HeadPass

/-! The tail pass. A dynamic member has its whole encoding here: its own head,
with offsets counted from its own start, and then its tail. -/
section TailPass

def TailSpec (build : Build) (value : Value) : Prop :=
  ∀ written, value.serialize build ⟨.chunks written, .tail⟩ =
    (.ok (), ⟨.chunks (written ++ tailSlots build value), .tail⟩)

theorem own_head_run (value : Value) (clean : firstError value = none)
    (lengths : announced build value = true) (fits : build.Fits (totalSize value))
    (written : List (List UInt8)) :
    value.serialize build ⟨.chunks written, .head (headSize value % build.usizeRange)⟩ =
      (.ok (), ⟨.chunks (written ++ headSlots build (headSize value) value),
        .head ((headSize value + advance value) % build.usizeRange)⟩) := by
  have bound := advance_le_tail value
  exact head_pass value clean lengths fits written (headSize value) (reserved_le_head value)
    (Build.fits_of_le fits (by unfold totalSize; omega))

theorem elements_tail (reduction : Nat) (elements : List Value)
    (each : ∀ element ∈ elements, firstError element = none → announced build element = true →
      build.Fits (totalSize element) → TailSpec build element)
    (clean : firstErrorAmong elements = none) (lengths : allAnnounced build elements = true)
    (fits : build.Fits (fieldsHeadSize elements + fieldsTailSize elements))
    (written : List (List UInt8)) :
    serializeElements build reduction elements ⟨.chunks written, .tail⟩ =
      (.ok (), ⟨.chunks (written ++ fieldsTailSlots build elements), .tail⟩) := by
  induction elements generalizing written with
  | nil => simp [serializeElements, fieldsTailSlots]
  | cons element rest ih =>
      have cleaned := (first_error_cons element rest).mp clean
      have measured := (announced_cons element rest).mp lengths
      have elementFits := Build.fits_of_le fits (total_le_fields element rest)
      have sized := compute_size_eq element cleaned.1 elementFits
      have restSpec := ih (fun e member => each e (List.mem_cons_of_mem element member)) cleaned.2
        measured.2 (Build.fits_of_le fits (rest_le_fields element rest))
      cases dynamic : isDynamic element with
      | true =>
          rw [dynamic, exclusive_flags element dynamic] at sized
          have own : serializeIn (element.serialize build)
              (.head (headSize element % build.usizeRange)) ⟨.chunks written, .tail⟩ =
              (.ok (), ⟨.chunks (written ++ headSlots build (headSize element) element), .tail⟩) := by
            simp [serializeIn, own_head_run element cleaned.1 measured.1 elementFits]
          have tail (before : List (List UInt8)) :
              serializeIn (element.serialize build) .tail ⟨.chunks before, .tail⟩ =
              (.ok (), ⟨.chunks (before ++ tailSlots build element), .tail⟩) := by
            simp [serializeIn, each element List.mem_cons_self cleaned.1 measured.1 elementFits before]
          have first : serializeTupleElement build (element.serialize build) reduction
              ⟨.chunks written, .tail⟩ = (.ok (), ⟨.chunks (written ++
                headSlots build (headSize element) element ++ tailSlots build element), .tail⟩) := by
            rw [element_tail_dynamic reduction _ sized, Op.bind_ok own, tail]
          rw [serializeElements, Op.bind_ok first, restSpec, fieldsTailSlots, if_pos dynamic]
          simp
      | false =>
          rw [dynamic] at sized
          rw [serializeElements, Op.bind_ok (element_tail_static reduction _ sized), restSpec,
            fieldsTailSlots]
          simp [dynamic]

theorem tail_pass (value : Value) (clean : firstError value = none)
    (lengths : announced build value = true) (fits : build.Fits (totalSize value)) :
    TailSpec build value := by
  induction value using Value.induction with
  | scalar v =>
      intro written
      obtain ⟨fill, shape, _⟩ := scalar_fill build v
      simp [Value.serialize, shape, serializeSlot, Op.bind_run, tailSlots]
  | str v =>
      intro written
      simp [Value.serialize, serializeStr, Op.bind_run, write_usize_run, write_slots_run, tailSlots]
  | bytes v =>
      intro written
      simp [Value.serialize, serializeBytes, Op.bind_run, tailSlots]
  | unitStruct name =>
      intro written
      by_cases marker : name = markDynamicName
      · simp [Value.serialize, serializeUnitStruct, Op.bind_run, marker, tailSlots]
      · simp [firstError, marker] at clean
  | newtypeStruct inner ih =>
      intro written
      rw [newtype_serialize, elements_tail 0 [inner] (only_member ih) (newtype_first_error clean)
        ((announced_cons inner []).mpr ⟨lengths, rfl⟩) (newtype_total inner ▸ fits) written]
      simp [fieldsTailSlots, tailSlots]
  | seq length elements ih =>
      intro written
      have announce : serializeSeq build length ⟨.chunks written, .tail⟩ =
          (.ok (), ⟨.chunks written, .tail⟩) := by
        simp [serializeSeq, Op.bind_run]
      simp only [announced, Bool.and_eq_true] at lengths
      rw [Value.serialize, Op.bind_ok announce, elements_tail slotSize elements ih clean lengths.2
        (Build.fits_of_le fits (by rw [totalSize, headSize, tailSize]; omega)) written, tailSlots]
  | compound kind fields ih =>
      intro written
      rw [Value.serialize, elements_tail 0 fields ih clean lengths fits written, tailSlots]
  | unsupported kind payload => simp [firstError] at clean

end TailPass

/-- What `to_writer` writes: the head with offsets counted from its end, and for
a dynamic value also the offset of the only component and the tail. -/
def writtenSlots (build : Build) (value : Value) : List (List UInt8) :=
  (if isDynamic value then [usizeSlot build slotSize] else []) ++
    headSlots build (headSize value) value ++
    (if isDynamic value then tailSlots build value else [])

/-- Every representable tree is written completely, in every build. -/
theorem to_writer_run (value : Value) (clean : firstError value = none)
    (lengths : announced build value = true) (fits : build.Fits (totalSize value)) :
    value.toWriter build = (.ok (), .chunks (writtenSlots build value)) := by
  have sized := compute_size_eq value clean fits
  have own := own_head_run value clean lengths fits
  have tail := tail_pass value clean lengths fits
  cases dynamic : isDynamic value with
  | true =>
      rw [dynamic] at sized
      simp [Value.toWriter, Ser.toWriter, toWriterInternal, writePasses, Op.bind_run, sized,
        write_usize_run, own, setPass, tail _, writtenSlots, dynamic]
  | false =>
      rw [dynamic] at sized
      simp [Value.toWriter, Ser.toWriter, toWriterInternal, writePasses, Op.bind_run, sized, own,
        writtenSlots, dynamic]

end Perun.Passes
