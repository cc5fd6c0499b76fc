import Perun.AbiEncode

/-! The size passes against the write passes. Each pass is an independent traversal of the
tree; here the sizes that two of them return are compared with what the other two write,
for every build, every tree and every size, also where the sizes no longer fit in a
machine word. -/
namespace Perun.PassSizes
open BigEndian Ser Passes AbiErrors AbiEncode

/-! How many slots each write pass has. -/
section Counts
variable {build : Build}

def AllSlots (added : List (List UInt8)) : Prop := ∀ slot ∈ added, slot.length = slotSize

theorem all_slots_append {first second : List (List UInt8)} (left : AllSlots first)
    (right : AllSlots second) : AllSlots (first ++ second) := by
  intro slot member
  rcases List.mem_append.mp member with inFirst | inSecond
  · exact left slot inFirst
  · exact right slot inSecond

theorem all_slots_single {slot : List UInt8} (length : slot.length = slotSize) :
    AllSlots [slot] := by
  intro other member
  rw [List.mem_singleton.mp member]
  exact length

/-- Slots of equal length are counted by their bytes. -/
theorem flatten_length {added : List (List UInt8)} (slots : AllSlots added) :
    added.flatten.length = slotSize * added.length := by
  induction added with
  | nil => rfl
  | cons slot rest ih =>
      rw [List.flatten_cons, List.length_append, slots slot List.mem_cons_self,
        ih fun other member => slots other (List.mem_cons_of_mem slot member), List.length_cons,
        Nat.mul_succ, Nat.add_comm]

theorem chunks_exact_slots (v : List UInt8) : AllSlots (chunksExact v) := by
  intro slot member
  obtain ⟨i, inside, rfl⟩ := List.mem_map.mp member
  have bound := List.mem_range.mp inside
  have whole := Nat.div_mul_le_self v.length slotSize
  have last : (i + 1) * slotSize ≤ v.length / slotSize * slotSize := Nat.mul_le_mul_right _ bound
  rw [List.length_take, List.length_drop]
  unfold slotSize at *
  omega

theorem slots_length (v : List UInt8) : (slots v).flatten.length = paddedLength v.length := by
  rw [slots_flatten, HeadTail.padRight_length, paddedLength]

theorem head_slots_length (value : Value) (offset : Nat) :
    (headSlots build offset value).flatten.length = headSize value := by
  have among (reduction : Nat) (fields : List Value)
      (each : ∀ field ∈ fields, ∀ offset,
        (headSlots build offset field).flatten.length = headSize field) (offset : Nat) :
      (fieldsHeadSlots build reduction offset fields).flatten.length = fieldsHeadSize fields := by
    induction fields generalizing offset with
    | nil => rfl
    | cons field rest ih =>
        have later := ih fun f member => each f (List.mem_cons_of_mem field member)
        rw [fieldsHeadSlots, fieldsHeadSize]
        split
        · rw [List.flatten_cons, List.length_append, later, usize_slot_length]
          rfl
        · rw [List.flatten_append, List.length_append, later, each field List.mem_cons_self]
  induction value using Value.induction generalizing offset with
  | scalar v => simp [headSlots, headSize, scalar_slot_length]
  | str v => rfl
  | bytes v => exact slots_length v
  | unitStruct name => rfl
  | newtypeStruct inner ih =>
      rw [headSlots, headSize]
      split
      · simp [usize_slot_length, slotSize]
      · exact ih build.usizeMax
  | seq length elements ih =>
      rw [headSlots, List.flatten_cons, List.length_append, among slotSize elements ih,
        usize_slot_length, headSize]
      rfl
  | compound kind fields ih => exact among 0 fields ih offset
  | unsupported kind payload => rfl

theorem tail_slots_length (value : Value) :
    (tailSlots build value).flatten.length = tailSize value := by
  have own (value : Value) (tail : (tailSlots build value).flatten.length = tailSize value) :
      (if isDynamic value then headSlots build (headSize value) value ++ tailSlots build value
        else []).flatten.length = (if isDynamic value then headSize value else 0) + tailSize value := by
    cases dynamic : isDynamic value with
    | true => simp only [↓reduceIte, List.flatten_append, List.length_append, head_slots_length, tail]
    | false => simp [static_tail_size value dynamic]
  have among (fields : List Value)
      (each : ∀ field ∈ fields, (tailSlots build field).flatten.length = tailSize field) :
      (fieldsTailSlots build fields).flatten.length = fieldsTailSize fields := by
    induction fields with
    | nil => rfl
    | cons field rest ih =>
        rw [fieldsTailSlots, fieldsTailSize, List.flatten_append, List.length_append,
          own field (each field List.mem_cons_self),
          ih fun f member => each f (List.mem_cons_of_mem field member)]
  induction value using Value.induction with
  | scalar v => rfl
  | str v =>
      rw [tailSlots, List.flatten_cons, List.length_append, usize_slot_length, slots_length,
        tailSize]
      rfl
  | bytes v => rfl
  | unitStruct name => rfl
  | newtypeStruct inner ih => exact own inner ih
  | seq length elements ih => exact among elements ih
  | compound kind fields ih => exact among fields ih
  | unsupported kind payload => rfl

end Counts

/-! Whatever a pass does, and however it ends, it only appends whole slots. -/
section Appends
variable {build : Build}

inductive Extends : Writer → Writer → Prop
  | silent : Extends .noWriter .noWriter
  | appended (written added : List (List UInt8)) (slots : AllSlots added) :
      Extends (.chunks written) (.chunks (written ++ added))

theorem extends_refl (writer : Writer) : Extends writer writer := by
  cases writer with
  | noWriter => exact .silent
  | chunks written =>
      have same := Extends.appended written [] (fun slot member => nomatch member)
      rwa [List.append_nil] at same

theorem extends_trans {a b c : Writer} (first : Extends a b) (second : Extends b c) :
    Extends a c := by
  cases first with
  | silent => exact second
  | appended written added slots =>
      cases second with
      | appended _ later slots' =>
          rw [List.append_assoc]
          exact .appended written (added ++ later) (all_slots_append slots slots')

def Appends {α : Type} (program : Op Error Serializer α) : Prop :=
  ∀ ser, Extends ser.writer (program ser).2.writer

theorem appends_bind {α β : Type} {first : Op Error Serializer α}
    {next : α → Op Error Serializer β} (head : Appends first)
    (rest : ∀ value, Appends (next value)) :
    Appends (first >>= next) := by
  intro ser
  have start := head ser
  rw [Op.bind_run]
  rcases outcome : first ser with ⟨result, after⟩
  rw [outcome] at start
  cases result with
  | ok value => exact extends_trans start (rest value after)
  | err error => exact start
  | panic => exact start

theorem appends_lift {α : Type} (result : Outcome Error α) :
    Appends (Op.lift result) := fun ser => extends_refl ser.writer

theorem appends_get : Appends Op.get := fun ser => extends_refl ser.writer

theorem appends_set_pass (pass : Pass) : Appends (setPass pass) :=
  fun ser => extends_refl ser.writer

theorem appends_fail (error : Error) : Appends (Op.fail error : Serialize) :=
  fun ser => extends_refl ser.writer

theorem appends_pure : Appends (pure () : Serialize) := fun ser => extends_refl ser.writer

theorem appends_write {slot : List UInt8} (length : slot.length = slotSize) :
    Appends (write slot) := by
  rintro ⟨writer, pass⟩
  cases writer with
  | noWriter => exact .silent
  | chunks written => exact .appended written [slot] (all_slots_single length)

theorem appends_right_aligned (v : List UInt8) : Appends (writeRightAligned v) := by
  unfold writeRightAligned
  split
  · rename_i short
    apply appends_write
    rw [List.length_append, List.length_replicate]
    omega
  · exact appends_lift _

theorem appends_left_aligned (v : List UInt8) : Appends (writeLeftAlignedSlice v) := by
  unfold writeLeftAlignedSlice
  split
  · rename_i short
    apply appends_write
    rw [List.length_append, List.length_replicate]
    omega
  · exact appends_lift _

theorem appends_signed (negative : Bool) (v : List UInt8) : Appends (writeSigned negative v) := by
  unfold writeSigned
  dsimp only
  split
  · rename_i short
    apply appends_write
    rw [List.length_append, List.length_replicate]
    omega
  · exact appends_lift _

theorem appends_each {chunks : List (List UInt8)} (slots : AllSlots chunks) :
    Appends (writeEach chunks) := by
  induction chunks with
  | nil => exact appends_pure
  | cons chunk rest ih =>
      apply appends_bind (appends_write (slots chunk List.mem_cons_self))
      intro _
      exact ih fun other member => slots other (List.mem_cons_of_mem chunk member)

theorem appends_slots (v : List UInt8) : Appends (writeSlots v) := by
  apply appends_bind (appends_each (chunks_exact_slots v))
  intro _
  split
  · exact appends_pure
  · exact appends_left_aligned _

theorem appends_in {value : Serialize} (inner : Appends value) (pass : Pass) :
    Appends (serializeIn value pass) := fun ser => inner ⟨ser.writer, pass⟩

theorem appends_element {value : Serialize} (inner : Appends value) (reduction : Nat) :
    Appends (serializeTupleElement build value reduction) := by
  apply appends_bind appends_get
  intro ser
  cases ser.pass with
  | headSize size isDynamic isFakeDynamic =>
      exact appends_bind (appends_lift _) fun _ => appends_bind (appends_lift _) fun _ =>
        appends_set_pass _
  | head offset =>
      apply appends_bind (appends_lift _)
      rintro ⟨fieldHeadSize, isDyn, isFakeDyn⟩
      dsimp only
      split
      · exact appends_bind (appends_lift _) fun _ => appends_bind (appends_right_aligned _) fun _ =>
          appends_bind (appends_lift _) fun _ => appends_bind (appends_lift _) fun _ =>
            appends_bind (appends_lift _) fun _ => appends_set_pass _
      · exact appends_in inner _
  | tailSize size =>
      exact appends_bind (appends_lift _) fun _ => appends_bind (appends_lift _) fun _ =>
        appends_bind (appends_lift _) fun _ => appends_bind (appends_lift _) fun _ =>
          appends_set_pass _
  | tail =>
      apply appends_bind (appends_lift _)
      rintro ⟨fieldHeadSize, isDyn, isFakeDyn⟩
      dsimp only
      split
      · exact appends_bind (appends_in inner _) fun _ => appends_in inner _
      · exact appends_pure

theorem appends_slot {fill : Serialize} (inner : Appends fill) :
    Appends (serializeSlot build fill) := by
  apply appends_bind appends_get
  intro ser
  cases ser.pass with
  | headSize size isDynamic isFakeDynamic =>
      exact appends_bind (appends_lift _) fun _ => appends_set_pass _
  | head offset => exact inner
  | tailSize size => exact appends_pure
  | tail => exact appends_pure

theorem appends_scalar (v : Scalar) : Appends (v.serialize build) := by
  cases v with
  | bool v => exact appends_slot (appends_right_aligned _)
  | i8 v => exact appends_slot (appends_signed _ _)
  | i16 v => exact appends_slot (appends_signed _ _)
  | i32 v => exact appends_slot (appends_signed _ _)
  | i64 v => exact appends_slot (appends_signed _ _)
  | i128 v => exact appends_slot (appends_right_aligned _)
  | u8 v => exact appends_slot (appends_right_aligned _)
  | u16 v => exact appends_slot (appends_right_aligned _)
  | u32 v => exact appends_slot (appends_right_aligned _)
  | u64 v => exact appends_slot (appends_right_aligned _)
  | u128 v => exact appends_slot (appends_right_aligned _)

theorem appends_value (build : Build) (value : Value) : Appends (value.serialize build) := by
  have among (reduction : Nat) (values : List Value)
      (each : ∀ v ∈ values, Appends (v.serialize build)) :
      Appends (serializeElements build reduction values) := by
    induction values with
    | nil => exact appends_pure
    | cons first rest ih =>
        apply appends_bind (appends_element (each first List.mem_cons_self) reduction)
        intro _
        exact ih fun v member => each v (List.mem_cons_of_mem first member)
  induction value using Value.induction with
  | scalar v => exact appends_scalar v
  | str v =>
      apply appends_bind appends_get
      intro ser
      cases ser.pass with
      | headSize size isDynamic isFakeDynamic => exact appends_set_pass _
      | head offset => exact appends_pure
      | tailSize size =>
          exact appends_bind (appends_lift _) fun _ => appends_bind (appends_lift _) fun _ =>
            appends_bind (appends_lift _) fun _ => appends_set_pass _
      | tail => exact appends_bind (appends_right_aligned _) fun _ => appends_slots v
  | bytes v =>
      apply appends_bind appends_get
      intro ser
      cases ser.pass with
      | headSize size isDynamic isFakeDynamic =>
          exact appends_bind (appends_lift _) fun _ => appends_bind (appends_lift _) fun _ =>
            appends_set_pass _
      | head offset => exact appends_slots v
      | tailSize size => exact appends_pure
      | tail => exact appends_pure
  | unitStruct name =>
      rw [Value.serialize, serializeUnitStruct]
      split
      · apply appends_bind appends_get
        intro ser
        cases ser.pass with
        | headSize size isDynamic isFakeDynamic => exact appends_set_pass _
        | head offset => exact appends_pure
        | tailSize size => exact appends_pure
        | tail => exact appends_pure
      · exact appends_fail _
  | newtypeStruct inner ih => exact appends_element ih 0
  | seq length elements ih =>
      refine appends_bind (appends_bind appends_get fun ser => ?_) fun _ => among slotSize elements ih
      cases ser.pass with
      | headSize size isDynamic isFakeDynamic =>
          exact appends_bind (appends_lift _) fun _ => appends_set_pass _
      | head offset => exact appends_bind (appends_lift _) fun _ => appends_right_aligned _
      | tailSize size => exact appends_pure
      | tail => exact appends_pure
  | compound kind fields ih => exact among 0 fields ih
  | unsupported kind payload => exact appends_fail _

end Appends

/-! A run that returns did not meet an unknown length and no addition of it aborted. It is
the run of a build without overflow checks on the same tree with known lengths. -/
section Settled
variable {build : Build}

mutual
/-- An unknown length becomes zero, a known one its machine word. -/
def settle (build : Build) : Value → Value
  | .scalar v => .scalar v
  | .str v => .str v
  | .bytes v => .bytes v
  | .unitStruct name => .unitStruct name
  | .newtypeStruct inner => .newtypeStruct (settle build inner)
  | .seq length elements =>
      .seq (some (length.getD 0 % build.usizeRange)) (settleAll build elements)
  | .compound kind fields => .compound kind (settleAll build fields)
  | .unsupported kind payload => .unsupported kind payload

def settleAll (build : Build) : List Value → List Value
  | [] => []
  | value :: rest => settle build value :: settleAll build rest
end

theorem settle_first_error (value : Value) : firstError (settle build value) = firstError value := by
  have among (values : List Value)
      (each : ∀ v ∈ values, firstError (settle build v) = firstError v) :
      firstErrorAmong (settleAll build values) = firstErrorAmong values := by
    induction values with
    | nil => rfl
    | cons first rest ih =>
        rw [settleAll, firstErrorAmong, firstErrorAmong, each first List.mem_cons_self,
          ih fun v member => each v (List.mem_cons_of_mem first member)]
  induction value using Value.induction with
  | scalar v => rfl
  | str v => rfl
  | bytes v => rfl
  | unitStruct name => rfl
  | newtypeStruct inner ih => exact ih
  | seq length elements ih => exact among elements ih
  | compound kind fields ih => exact among fields ih
  | unsupported kind payload => rfl

theorem settle_announced (value : Value) : announced build.wrapping (settle build value) = true := by
  have among (values : List Value)
      (each : ∀ v ∈ values, announced build.wrapping (settle build v) = true) :
      allAnnounced build.wrapping (settleAll build values) = true := by
    induction values with
    | nil => rfl
    | cons first rest ih =>
        rw [settleAll, announced_cons]
        exact ⟨each first List.mem_cons_self,
          ih fun v member => each v (List.mem_cons_of_mem first member)⟩
  induction value using Value.induction with
  | scalar v => rfl
  | str v => rfl
  | bytes v => rfl
  | unitStruct name => rfl
  | newtypeStruct inner ih => exact ih
  | seq length elements ih =>
      have large := build.usize_range_ge
      rw [settle, announced, among elements ih, Bool.and_true]
      exact decide_eq_true (Nat.mod_lt _ (by omega))
  | compound kind fields ih => exact among fields ih
  | unsupported kind payload => rfl

/-- Lengths do not enter the flags and the sizes. -/
structure SameShape (first second : Value) : Prop where
  dynamic : isDynamic first = isDynamic second
  fake : isFake first = isFake second
  head : headSize first = headSize second
  tail : tailSize first = tailSize second

theorem settle_shape (value : Value) : SameShape (settle build value) value := by
  have among (values : List Value) (each : ∀ v ∈ values, SameShape (settle build v) v) :
      fieldsDynamic (settleAll build values) = fieldsDynamic values ∧
        fieldsHeadSize (settleAll build values) = fieldsHeadSize values ∧
        fieldsTailSize (settleAll build values) = fieldsTailSize values := by
    induction values with
    | nil => exact ⟨rfl, rfl, rfl⟩
    | cons first rest ih =>
        obtain ⟨dynamic, head, tail⟩ := ih fun v member => each v (List.mem_cons_of_mem first member)
        have own := each first List.mem_cons_self
        simp only [settleAll, fieldsDynamic, fieldsHeadSize, fieldsTailSize, dynamic, head, tail,
          own.dynamic, own.fake, own.head, own.tail, and_self]
  induction value using Value.induction with
  | scalar v => exact ⟨rfl, rfl, rfl, rfl⟩
  | str v => exact ⟨rfl, rfl, rfl, rfl⟩
  | bytes v => exact ⟨rfl, rfl, rfl, rfl⟩
  | unitStruct name => exact ⟨rfl, rfl, rfl, rfl⟩
  | newtypeStruct inner ih =>
      constructor
      · simp only [settle, isDynamic, ih.dynamic, ih.fake]
      · rfl
      · simp only [settle, headSize, ih.dynamic, ih.head]
      · simp only [settle, tailSize, ih.dynamic, ih.head, ih.tail]
  | seq length elements ih =>
      obtain ⟨_, head, tail⟩ := among elements ih
      constructor
      · rfl
      · rfl
      · simp only [settle, headSize, head]
      · simp only [settle, tailSize, tail]
  | compound kind fields ih =>
      obtain ⟨dynamic, head, tail⟩ := among fields ih
      constructor
      · simp only [settle, isDynamic, dynamic]
      · rfl
      · simp only [settle, headSize, head]
      · simp only [settle, tailSize, tail]
  | unsupported kind payload => exact ⟨rfl, rfl, rfl, rfl⟩

theorem usize_bytes_mod (n : Nat) :
    build.usizeToBeBytes (n % build.usizeRange) = build.usizeToBeBytes n := by
  rw [Build.usizeToBeBytes, Build.usizeToBeBytes, Build.usizeRange, bigEndian_mod]

theorem seq_settles (length : Option Nat) :
    Op.Refines (serializeSeq build length)
      (serializeSeq build.wrapping (some (length.getD 0 % build.usizeRange))) := by
  apply Op.refines_bind (Op.refines_refl _)
  intro ser
  cases ser.pass with
  | headSize size isDynamic isFakeDynamic =>
      exact Op.refines_bind (Op.refines_lift (build.add_refines _ _)) fun _ => Op.refines_refl _
  | head offset =>
      cases length with
      | none => exact fun state => Or.inl rfl
      | some n =>
          have bytes : build.wrapping.usizeToBeBytes (n % build.usizeRange) =
              build.usizeToBeBytes n := usize_bytes_mod n
          intro state
          right
          simp only [Option.getD_some, Outcome.unwrap_some, Op.bind_run, Op.lift_run, bytes]
  | tailSize size => exact Op.refines_refl _
  | tail => exact Op.refines_refl _

theorem settle_refines (build : Build) (value : Value) :
    Op.Refines (value.serialize build) ((settle build value).serialize build.wrapping) := by
  have among (reduction : Nat) (values : List Value)
      (each : ∀ v ∈ values,
        Op.Refines (v.serialize build) ((settle build v).serialize build.wrapping)) :
      Op.Refines (serializeElements build reduction values)
        (serializeElements build.wrapping reduction (settleAll build values)) := by
    induction values with
    | nil => exact Op.refines_refl _
    | cons first rest ih =>
        exact Op.refines_bind (element_refines (each first List.mem_cons_self) reduction) fun _ =>
          ih fun v member => each v (List.mem_cons_of_mem first member)
  induction value using Value.induction with
  | scalar v => exact serialize_refines build (.scalar v)
  | str v => exact serialize_refines build (.str v)
  | bytes v => exact serialize_refines build (.bytes v)
  | unitStruct name => exact serialize_refines build (.unitStruct name)
  | newtypeStruct inner ih => exact element_refines ih 0
  | seq length elements ih =>
      exact Op.refines_bind (seq_settles length) fun _ => among slotSize elements ih
  | compound kind fields ih => exact among 0 fields ih
  | unsupported kind payload => exact serialize_refines build (.unsupported kind payload)

end Settled

/-! What the passes of a tree compute where they return. -/
section Returned
variable {build : Build} {value : Value} (clean : firstError value = none)
include clean

theorem settled_clean : firstError (settle build value) = none :=
  (settle_first_error value).trans clean

/-- The size is the residue of the head's size. -/
theorem compute_size_returned {size : Nat} {dynamic fake : Bool}
    (returned : computeSize (value.serialize build) = .ok (size, dynamic, fake)) :
    size = headSize value % build.usizeRange ∧ dynamic = isDynamic value ∧ fake = isFake value := by
  have shape := @settle_shape build value
  have sized := @compute_size_eq build.wrapping (settle build value) (settled_clean clean)
    (fits_wrapping build _)
  have same := Outcome.refines_ok (compute_size_refines (settle_refines build value)) returned
  rw [sized, shape.head, shape.dynamic, shape.fake] at same
  cases same
  exact ⟨rfl, rfl, rfl⟩

theorem get_tail_size_returned {size : Nat}
    (returned : getTailSize (value.serialize build) = .ok size) :
    size = tailSize value % build.usizeRange := by
  have shape := @settle_shape build value
  have sized := @get_tail_size_eq build.wrapping (settle build value) (settled_clean clean)
    (fits_wrapping build _)
  have same := Outcome.refines_ok (get_tail_size_refines (settle_refines build value)) returned
  rw [sized, shape.tail] at same
  cases same
  rfl

/-- Any offset is that of a run with one range to spare. -/
theorem head_returned {written slots : List (List UInt8)} {offset : Nat} {pass : Pass}
    (small : offset < build.usizeRange)
    (returned : value.serialize build ⟨.chunks written, .head offset⟩ =
      (.ok (), ⟨.chunks (written ++ slots), pass⟩)) :
    slots.flatten.length = headSize value := by
  have large := build.usize_range_ge
  have spare : reserved (settle build value) ≤ offset + build.usizeRange := by
    have bound : reserved (settle build value) ≤ slotSize := by
      cases settle build value <;> simp [reserved]
    unfold slotSize at bound
    omega
  have run := head_pass (settle build value) (settled_clean clean) (settle_announced value)
    (fits_wrapping build _) written (offset + build.usizeRange) spare (fits_wrapping build _)
  have residue : (offset + build.usizeRange) % build.wrapping.usizeRange = offset := by
    change (offset + build.usizeRange) % build.usizeRange = offset
    rw [Nat.add_mod_right, Nat.mod_eq_of_lt small]
  rw [residue] at run
  have shape := @settle_shape build value
  have same := Op.refines_ok (settle_refines build value) returned
  rw [run] at same
  injection same with _ after
  injection after with writer _
  injection writer with appended
  rw [← List.append_cancel_left appended, head_slots_length, shape.head]

theorem tail_returned {written slots : List (List UInt8)} {pass : Pass}
    (returned : value.serialize build ⟨.chunks written, .tail⟩ =
      (.ok (), ⟨.chunks (written ++ slots), pass⟩)) :
    slots.flatten.length = tailSize value := by
  have run := tail_pass (settle build value) (settled_clean clean) (settle_announced value)
    (fits_wrapping build _) written
  have shape := @settle_shape build value
  have same := Op.refines_ok (settle_refines build value) returned
  rw [run] at same
  injection same with _ after
  injection after with writer _
  injection writer with appended
  rw [← List.append_cancel_left appended, tail_slots_length, shape.tail]

end Returned

/-- Every call of `write` in any pass receives one slot. Where the passes return, the sizes
are the residues of what the write passes append, and a static tree has no tail. -/
structure PassesAgree (build : Build) (value : Value) : Prop where
  slots : ∀ pass written, ∃ slots,
    (value.serialize build ⟨.chunks written, pass⟩).2.writer = .chunks (written ++ slots) ∧
      AllSlots slots
  head : ∀ size dynamic fake written offset slots pass,
    computeSize (value.serialize build) = .ok (size, dynamic, fake) → offset < build.usizeRange →
    value.serialize build ⟨.chunks written, .head offset⟩ =
      (.ok (), ⟨.chunks (written ++ slots), pass⟩) →
    size = slots.flatten.length % build.usizeRange
  tail : ∀ size written slots pass, getTailSize (value.serialize build) = .ok size →
    value.serialize build ⟨.chunks written, .tail⟩ =
      (.ok (), ⟨.chunks (written ++ slots), pass⟩) →
    size = slots.flatten.length % build.usizeRange
  static : ∀ size fake, computeSize (value.serialize build) = .ok (size, false, fake) →
    (∀ tail, getTailSize (value.serialize build) = .ok tail → tail = 0) ∧
    ∀ written slots pass, value.serialize build ⟨.chunks written, .tail⟩ =
      (.ok (), ⟨.chunks (written ++ slots), pass⟩) → slots = []

/-- All passes return, and the sizes are the numbers of bytes. -/
structure PassesExact (build : Build) (value : Value) : Prop where
  head : ∃ size dynamic fake, computeSize (value.serialize build) = .ok (size, dynamic, fake) ∧
    ∀ written offset, reserved value ≤ offset → offset + tailSize value < build.usizeRange →
      ∃ slots pass, value.serialize build ⟨.chunks written, .head offset⟩ =
        (.ok (), ⟨.chunks (written ++ slots), pass⟩) ∧ slots.flatten.length = size
  tail : ∃ size, getTailSize (value.serialize build) = .ok size ∧
    ∀ written, ∃ slots pass, value.serialize build ⟨.chunks written, .tail⟩ =
      (.ok (), ⟨.chunks (written ++ slots), pass⟩) ∧ slots.flatten.length = size

theorem appended_slots (build : Build) (value : Value) (pass : Pass)
    (written : List (List UInt8)) : ∃ slots,
      (value.serialize build ⟨.chunks written, pass⟩).2.writer = .chunks (written ++ slots) ∧
        AllSlots slots := by
  have extension := appends_value build value ⟨.chunks written, pass⟩
  generalize (value.serialize build ⟨.chunks written, pass⟩).2.writer = writer at extension
  cases extension with
  | appended _ added slots => exact ⟨added, rfl, slots⟩

/-- Nothing of zero bytes is appended where every slot has 32. -/
theorem no_slots {slots : List (List UInt8)} (all : AllSlots slots)
    (empty : slots.flatten.length = 0) : slots = [] := by
  rw [flatten_length all] at empty
  rcases Nat.mul_eq_zero.mp empty with never | none
  · cases never
  · exact List.length_eq_zero_iff.mp none

theorem passes_exact (build : Build) (value : Value) (clean : firstError value = none)
    (lengths : announced build value = true) (small : totalSize value < build.usizeRange) :
    PassesExact build value := by
  have fits : build.Fits (totalSize value) := Build.fits_of_lt small
  have bounds : headSize value ≤ totalSize value ∧ tailSize value ≤ totalSize value :=
    ⟨Nat.le_add_right _ _, Nat.le_add_left _ _⟩
  constructor
  · refine ⟨_, _, _, compute_size_eq value clean fits, ?_⟩
    intro written offset reduced room
    have bound := advance_le_tail value
    have run := head_pass value clean lengths fits written offset reduced
      (Build.fits_of_lt (by omega))
    rw [Nat.mod_eq_of_lt (by omega)] at run
    exact ⟨_, _, run, by rw [head_slots_length, Nat.mod_eq_of_lt (by omega)]⟩
  · refine ⟨_, get_tail_size_eq value clean fits, ?_⟩
    intro written
    exact ⟨_, _, tail_pass value clean lengths fits written,
      by rw [tail_slots_length, Nat.mod_eq_of_lt (by omega)]⟩

/-- Size passes agree with write passes, up to the range of a `usize` in general and exactly
where the encoding fits. -/
theorem passes_agree (build : Build) (value : Value) (clean : firstError value = none) :
    PassesAgree build value ∧
      (announced build value = true → totalSize value < build.usizeRange →
        PassesExact build value) := by
  refine ⟨⟨appended_slots build value, ?_, ?_, ?_⟩, passes_exact build value clean⟩
  · intro size dynamic fake written offset slots pass sized small returned
    rw [(compute_size_returned clean sized).1, head_returned clean small returned]
  · intro size written slots pass sized returned
    rw [get_tail_size_returned clean sized, tail_returned clean returned]
  · intro size fake sized
    have none := static_tail_size value (compute_size_returned clean sized).2.1.symm
    constructor
    · intro tail measured
      rw [get_tail_size_returned clean measured, none, Nat.zero_mod]
    · intro written slots pass returned
      obtain ⟨added, appended, all⟩ := appended_slots build value .tail written
      rw [returned, Writer.chunks.injEq] at appended
      rw [List.append_cancel_left appended] at returned ⊢
      exact no_slots all ((tail_returned clean returned).trans none)

/-- A struct with an empty sequence, and a sequence of two bytes strings. -/
theorem passes_agree_nested :
    let value : Value := .compound .struct [.scalar (.i8 (-2)), .seq (some 0) [],
      .seq (some 2) [asBytes [1], asBytes []]]
    PassesAgree ⟨.bits32, true⟩ value ∧ PassesExact ⟨.bits32, true⟩ value := by
  intro value
  obtain ⟨agree, exactly⟩ := passes_agree ⟨.bits32, true⟩ value (by decide)
  exact ⟨agree, exactly (by decide) (by decide)⟩

/-- On a 32-bit machine without overflow checks the size of 2^27 bytes is that of none. -/
theorem passes_disagree :
    ¬∀ (build : Build) (value : Value) (size : Nat) (dynamic fake : Bool) (offset : Nat)
      (slots : List (List UInt8)) (pass : Pass), firstError value = none →
      announced build value = true → computeSize (value.serialize build) = .ok (size, dynamic, fake) →
      value.serialize build ⟨.chunks [], .head offset⟩ = (.ok (), ⟨.chunks slots, pass⟩) →
      size = slots.flatten.length := by
  intro claimed
  let build : Build := ⟨.bits32, false⟩
  have clean := wide_clean (2 ^ 27)
  have lengths : announced build (wide (2 ^ 27)) = true := wide_announced (by decide)
  have sized := @compute_size_eq build (wide (2 ^ 27)) clean (fits_wrapping build _)
  have run := head_pass (wide (2 ^ 27)) clean lengths (fits_wrapping build _) [] slotSize
    (Nat.le_refl slotSize) (fits_wrapping build _)
  have same := claimed build _ _ _ _ _ _ _ clean lengths sized run
  rw [List.nil_append, head_slots_length, wide_head_size] at same
  exact absurd same (by decide)

end Perun.PassSizes
