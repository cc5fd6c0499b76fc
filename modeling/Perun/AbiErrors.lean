import Perun.Passes

/-! Failing trees. The first size pass visits every node that a later pass can
visit, in the same order, and nothing is written before it has returned. A build
with overflow checks can only differ from one without by aborting. -/
namespace Perun.AbiErrors
open Ser Passes
variable {build : Build}

mutual
/-- The nodes of a tree in the order in which they are visited. -/
def nodes : Value → List Value
  | .newtypeStruct inner => .newtypeStruct inner :: nodes inner
  | .seq length elements => .seq length elements :: nodesOf elements
  | .compound kind fields => .compound kind fields :: nodesOf fields
  | .unsupported kind payload => .unsupported kind payload :: nodesOf payload
  | .scalar v => [.scalar v]
  | .str v => [.str v]
  | .bytes v => [.bytes v]
  | .unitStruct name => [.unitStruct name]

def nodesOf : List Value → List Value
  | [] => []
  | first :: rest => nodes first ++ nodesOf rest
end

/-- The error that a node's own method returns, if it has no representation. -/
def nodeError : Value → Option Error
  | .unsupported kind _ => some kind.error
  | .unitStruct name =>
      if name = markDynamicName then none else some (.typeNotRepresentable "unit struct")
  | _ => none

theorem first_error_eq (value : Value) : firstError value = (nodes value).findSome? nodeError := by
  have among (values : List Value)
      (each : ∀ v ∈ values, firstError v = (nodes v).findSome? nodeError) :
      firstErrorAmong values = (nodesOf values).findSome? nodeError := by
    induction values with
    | nil => rfl
    | cons first rest ih =>
        rw [firstErrorAmong, nodesOf, List.findSome?_append, each first List.mem_cons_self,
          ih (fun v member => each v (List.mem_cons_of_mem first member))]
  induction value using Value.induction with
  | scalar v => rfl
  | str v => rfl
  | bytes v => rfl
  | unitStruct name =>
      by_cases marker : name = markDynamicName <;> simp [firstError, nodes, nodeError, marker]
  | newtypeStruct inner ih => simpa [firstError, nodes, List.findSome?_cons, nodeError] using ih
  | seq length elements ih =>
      simpa [firstError, nodes, List.findSome?_cons, nodeError] using among elements ih
  | compound kind fields ih =>
      simpa [firstError, nodes, List.findSome?_cons, nodeError] using among fields ih
  | unsupported kind payload => simp [firstError, nodes, List.findSome?_cons, nodeError]

/-! The failing size pass. -/

def HeadSizeFails (build : Build) (value : Value) (error : Error) : Prop :=
  ∀ writer before d f, build.Fits (before + headSize value) →
    ∃ pass, value.serialize build ⟨writer, .headSize (before % build.usizeRange) d f⟩ =
      (.err error, ⟨writer, pass⟩)

theorem compute_size_of_fails {value : Value} {error : Error}
    (fails : HeadSizeFails build value error) (fits : build.Fits (headSize value)) :
    computeSize (value.serialize build) = .err error := by
  obtain ⟨pass, run⟩ := fails .noWriter 0 false false (by rwa [Nat.zero_add])
  rw [Nat.zero_mod] at run
  simp [computeSize, run]

-- Members before the failing one are measured as usual, so the induction carries
-- the running size.
theorem elements_fail (reduction : Nat) (elements : List Value) (error : Error)
    (each : ∀ element ∈ elements, firstError element = some error →
      build.Fits (totalSize element) → HeadSizeFails build element error)
    (found : firstErrorAmong elements = some error)
    (fits : build.Fits (fieldsHeadSize elements + fieldsTailSize elements))
    (writer : Writer) (before : Nat) (d f : Bool)
    (room : build.Fits (before + fieldsHeadSize elements)) :
    ∃ pass, serializeElements build reduction elements
        ⟨writer, .headSize (before % build.usizeRange) d f⟩ = (.err error, ⟨writer, pass⟩) := by
  induction elements generalizing before d with
  | nil => simp [firstErrorAmong] at found
  | cons element rest ih =>
      have elementFits := Build.fits_of_le fits (total_le_fields element rest)
      have headFits := Build.fits_of_le elementFits (Nat.le_add_right _ _)
      cases own : firstError element with
      | some first =>
          rw [firstErrorAmong, own, Option.some_or, Option.some.injEq] at found
          subst found
          have failed := compute_size_of_fails
            (each element List.mem_cons_self own elementFits) headFits
          refine ⟨.headSize (before % build.usizeRange) d f, ?_⟩
          rw [serializeElements, Op.bind_err (element_fails reduction _ first failed)]
      | none =>
          rw [firstErrorAmong, own, Option.none_or] at found
          have sized := compute_size_eq element own elementFits
          have first := element_head_size sized (exclusive_flags element) reduction writer before d f
            (Build.fits_of_le room (by rw [fieldsHeadSize]; omega))
          rw [serializeElements, Op.bind_ok first]
          apply ih (fun e member => each e (List.mem_cons_of_mem element member)) found
            (Build.fits_of_le fits (rest_le_fields element rest))
          rwa [fieldsHeadSize, ← Nat.add_assoc] at room

theorem head_size_fails (value : Value) (error : Error) (found : firstError value = some error)
    (fits : build.Fits (totalSize value)) : HeadSizeFails build value error := by
  induction value using Value.induction with
  | scalar v => simp [firstError] at found
  | str v => simp [firstError] at found
  | bytes v => simp [firstError] at found
  | unitStruct name =>
      intro writer before d f _
      by_cases marker : name = markDynamicName
      · simp [firstError, marker] at found
      · simp only [firstError, marker, ↓reduceIte, Option.some.injEq] at found
        exact ⟨_, by rw [Value.serialize, serializeUnitStruct, if_neg marker, found]; rfl⟩
  | newtypeStruct inner ih =>
      intro writer before d f room
      rw [newtype_serialize]
      refine elements_fail 0 [inner] error (only_member ih) ?_ (newtype_total inner ▸ fits) writer
        before d f (newtype_head_size inner ▸ room)
      rw [firstError] at found
      rw [firstErrorAmong, found, Option.some_or]
  | seq length elements ih =>
      intro writer before d f room
      have added : (build.add (before % build.usizeRange) slotSize : Outcome Error Nat) =
          .ok ((before + slotSize) % build.usizeRange) :=
        Build.add_residue (Build.fits_of_le room (by rw [headSize]; omega))
      have announce : serializeSeq build length
          ⟨writer, .headSize (before % build.usizeRange) d f⟩ =
          (.ok (), ⟨writer, .headSize ((before + slotSize) % build.usizeRange) true f⟩) := by
        simp [serializeSeq, Op.bind_run, added, setPass]
      rw [Value.serialize, Op.bind_ok announce]
      exact elements_fail slotSize elements error ih found
        (Build.fits_of_le fits (by rw [totalSize, headSize, tailSize]; omega)) writer
        (before + slotSize) true f (by rwa [headSize, ← Nat.add_assoc] at room)
  | compound kind fields ih =>
      intro writer before d f room
      exact elements_fail 0 fields error ih found fits writer before d f room
  | unsupported kind payload =>
      intro writer before d f _
      rw [firstError, Option.some.injEq] at found
      exact ⟨_, by rw [Value.serialize, found]; rfl⟩

theorem to_writer_fails (value : Value) (error : Error) (found : firstError value = some error)
    (fits : build.Fits (totalSize value)) :
    value.toWriter build = (.err error, .chunks []) := by
  have failed := compute_size_of_fails (head_size_fails value error found fits)
    (Build.fits_of_le fits (Nat.le_add_right _ _))
  simp [Value.toWriter, Ser.toWriter, toWriterInternal, Op.bind_run, failed]

/-! Overflow checks only add aborts. -/
section Checked

theorem compute_size_refines {checked unchecked : Serialize}
    (refines : Op.Refines checked unchecked) :
    Outcome.Refines (computeSize checked) (computeSize unchecked) := by
  rcases refines ⟨.noWriter, .headSize 0 false false⟩ with aborted | same
  · left
    rcases run : checked ⟨.noWriter, .headSize 0 false false⟩ with ⟨result, after⟩
    rw [run] at aborted
    simp only at aborted
    simp [computeSize, run, aborted]
  · exact Or.inr (by rw [computeSize, computeSize, same])

theorem get_tail_size_refines {checked unchecked : Serialize}
    (refines : Op.Refines checked unchecked) :
    Outcome.Refines (getTailSize checked) (getTailSize unchecked) := by
  rcases refines ⟨.noWriter, .tailSize 0⟩ with aborted | same
  · left
    rcases run : checked ⟨.noWriter, .tailSize 0⟩ with ⟨result, after⟩
    rw [run] at aborted
    simp only at aborted
    simp [getTailSize, run, aborted]
  · exact Or.inr (by rw [getTailSize, getTailSize, same])

theorem serialize_in_refines {checked unchecked : Serialize}
    (refines : Op.Refines checked unchecked) (pass : Pass) :
    Op.Refines (serializeIn checked pass) (serializeIn unchecked pass) := by
  intro ser
  rcases refines ⟨ser.writer, pass⟩ with aborted | same
  · exact Or.inl aborted
  · exact Or.inr (by rw [serializeIn, serializeIn, same])

theorem element_refines {checked unchecked : Serialize} (refines : Op.Refines checked unchecked)
    (reduction : Nat) :
    Op.Refines (serializeTupleElement build checked reduction)
      (serializeTupleElement build.wrapping unchecked reduction) := by
  have sizes := Op.refines_lift (σ := Serializer) (compute_size_refines refines)
  have tails := Op.refines_lift (σ := Serializer) (get_tail_size_refines refines)
  have adds (a b : Nat) := Op.refines_lift (σ := Serializer) (build.add_refines (ε := Error) a b)
  refine Op.refines_bind (Op.refines_refl _) fun ser => ?_
  cases ser.pass with
  | headSize size isDynamic isFakeDynamic =>
      exact Op.refines_bind sizes fun _ => Op.refines_bind (adds _ _) fun _ => Op.refines_refl _
  | head offset =>
      refine Op.refines_bind sizes fun (fieldHeadSize, isDyn, isFakeDyn) => ?_
      dsimp only
      by_cases indirect : (isDyn && !isFakeDyn) = true
      · rw [if_pos indirect, if_pos indirect]
        exact Op.refines_bind (Op.refines_lift (build.sub_refines _ _)) fun _ =>
          Op.refines_bind (Op.refines_refl _) fun _ => Op.refines_bind (adds _ _) fun _ =>
            Op.refines_bind tails fun _ => Op.refines_bind (adds _ _) fun _ => Op.refines_refl _
      · rw [if_neg indirect, if_neg indirect]
        exact serialize_in_refines refines _
  | tailSize size =>
      exact Op.refines_bind sizes fun _ => Op.refines_bind tails fun _ =>
        Op.refines_bind (adds _ _) fun _ => Op.refines_bind (adds _ _) fun _ => Op.refines_refl _
  | tail =>
      refine Op.refines_bind sizes fun (fieldHeadSize, isDyn, isFakeDyn) => ?_
      dsimp only
      by_cases indirect : (isDyn && !isFakeDyn) = true
      · rw [if_pos indirect, if_pos indirect]
        exact Op.refines_bind (serialize_in_refines refines _) fun _ =>
          serialize_in_refines refines _
      · rw [if_neg indirect, if_neg indirect]
        exact Op.refines_refl _

theorem scalar_refines (v : Scalar) :
    Op.Refines (v.serialize build) (v.serialize build.wrapping) := by
  have slot (fill : Serialize) :
      Op.Refines (serializeSlot build fill) (serializeSlot build.wrapping fill) := by
    refine Op.refines_bind (Op.refines_refl _) fun ser => ?_
    cases ser.pass with
    | headSize size isDynamic isFakeDynamic =>
        exact Op.refines_bind (Op.refines_lift (build.add_refines _ _)) fun _ => Op.refines_refl _
    | head offset => exact Op.refines_refl _
    | tailSize size => exact Op.refines_refl _
    | tail => exact Op.refines_refl _
  cases v <;> exact slot _

theorem serialize_refines (build : Build) (value : Value) :
    Op.Refines (value.serialize build) (value.serialize build.wrapping) := by
  have adds (a b : Nat) := Op.refines_lift (σ := Serializer) (build.add_refines (ε := Error) a b)
  have among (reduction : Nat) (values : List Value)
      (each : ∀ v ∈ values, Op.Refines (v.serialize build) (v.serialize build.wrapping)) :
      Op.Refines (serializeElements build reduction values)
        (serializeElements build.wrapping reduction values) := by
    induction values with
    | nil => exact Op.refines_refl _
    | cons first rest ih =>
        exact Op.refines_bind (element_refines (each first List.mem_cons_self) reduction) fun _ =>
          ih fun v member => each v (List.mem_cons_of_mem first member)
  induction value using Value.induction with
  | scalar v => exact scalar_refines v
  | str v =>
      refine Op.refines_bind (Op.refines_refl _) fun ser => ?_
      cases ser.pass with
      | headSize size isDynamic isFakeDynamic => exact Op.refines_refl _
      | head offset => exact Op.refines_refl _
      | tailSize size =>
          exact Op.refines_bind (adds _ _) fun _ => Op.refines_bind (adds _ _) fun _ =>
            Op.refines_bind (adds _ _) fun _ => Op.refines_refl _
      | tail => exact Op.refines_refl _
  | bytes v =>
      refine Op.refines_bind (Op.refines_refl _) fun ser => ?_
      cases ser.pass with
      | headSize size isDynamic isFakeDynamic =>
          exact Op.refines_bind (Op.refines_lift (build.add_refines _ _)) fun _ =>
            Op.refines_bind (adds _ _) fun _ => Op.refines_refl _
      | head offset => exact Op.refines_refl _
      | tailSize size => exact Op.refines_refl _
      | tail => exact Op.refines_refl _
  | unitStruct name => exact Op.refines_refl _
  | newtypeStruct inner ih => exact element_refines ih 0
  | seq length elements ih =>
      refine Op.refines_bind (Op.refines_bind (Op.refines_refl _) fun ser => ?_) fun _ =>
        among slotSize elements ih
      cases ser.pass with
      | headSize size isDynamic isFakeDynamic =>
          exact Op.refines_bind (adds _ _) fun _ => Op.refines_refl _
      | head offset => exact Op.refines_refl _
      | tailSize size => exact Op.refines_refl _
      | tail => exact Op.refines_refl _
  | compound kind fields ih => exact among 0 fields ih
  | unsupported kind payload => exact Op.refines_refl _

theorem write_passes_refine {checked unchecked : Serialize}
    (refines : Op.Refines checked unchecked) (isDynamic includeOuterStruct : Bool) :
    Op.Refines (writePasses build checked isDynamic includeOuterStruct)
      (writePasses build.wrapping unchecked isDynamic includeOuterStruct) := by
  cases isDynamic with
  | false => exact Op.refines_bind refines fun _ => Op.refines_refl _
  | true =>
      have passes := Op.refines_bind refines fun _ =>
        Op.refines_bind (Op.refines_refl (setPass .tail)) fun _ => refines
      cases includeOuterStruct with
      | false => exact passes
      | true => exact Op.refines_bind (Op.refines_refl _) fun _ => passes

theorem writer_refines {checked unchecked : Serialize} (refines : Op.Refines checked unchecked) :
    Op.Refines (Ser.toWriter build checked) (Ser.toWriter build.wrapping unchecked) := by
  refine Op.refines_bind (Op.refines_lift (compute_size_refines refines)) fun
    (headSize, isDynamic, _) => Op.refines_bind (Op.refines_refl _) fun writer => ?_
  intro before
  rcases write_passes_refine refines isDynamic true ⟨writer, .head headSize⟩ with aborted | same
  · exact Or.inl aborted
  · exact Or.inr (congrArg
      (fun final : Outcome Error Unit × Serializer => (final.1, final.2.writer)) same)

theorem to_writer_refines (build : Build) (value : Value) :
    (value.toWriter build).1 = .panic ∨ value.toWriter build = value.toWriter build.wrapping :=
  writer_refines (serialize_refines build value) (.chunks [])

end Checked

theorem fits_wrapping (build : Build) (n : Nat) : build.wrapping.Fits n := by
  intro checks
  cases checks

theorem announced_wrapping (value : Value) :
    announced build.wrapping value = announced build value := by
  have among (values : List Value)
      (each : ∀ v ∈ values, announced build.wrapping v = announced build v) :
      allAnnounced build.wrapping values = allAnnounced build values := by
    induction values with
    | nil => rfl
    | cons first rest ih =>
        rw [allAnnounced, allAnnounced, each first List.mem_cons_self,
          ih (fun v member => each v (List.mem_cons_of_mem first member))]
  induction value using Value.induction with
  | scalar v => rfl
  | str v => rfl
  | bytes v => rfl
  | unitStruct name => rfl
  | newtypeStruct inner ih => exact ih
  | seq length elements ih => simp only [announced, among elements ih]; rfl
  | compound kind fields ih => exact among fields ih
  | unsupported kind payload => rfl

/-! Sizes that do not fit. -/
section Wide

/-- A sequence of zero bytes, each of which takes a slot. -/
def wide (count : Nat) : Value :=
  .seq (some count) (List.replicate count (.scalar (.u8 0)))

theorem wide_clean (count : Nat) : firstError (wide count) = none := by
  have among : firstErrorAmong (List.replicate count (.scalar (.u8 0))) = none := by
    induction count with
    | zero => rfl
    | succ count ih => rw [List.replicate_succ, firstErrorAmong, ih]; rfl
  exact among

theorem wide_announced {build : Build} {count : Nat} (small : count < build.usizeRange) :
    announced build (wide count) = true := by
  have among (n : Nat) : allAnnounced build (List.replicate n (.scalar (.u8 0))) = true := by
    induction n with
    | zero => rfl
    | succ n ih => rw [List.replicate_succ, announced_cons]; exact ⟨rfl, ih⟩
  rw [wide, announced, among, Bool.and_true]
  exact decide_eq_true small

theorem wide_head_size (count : Nat) : headSize (wide count) = slotSize + slotSize * count := by
  have among : fieldsHeadSize (List.replicate count (.scalar (.u8 0))) = slotSize * count := by
    induction count with
    | zero => rfl
    | succ count ih =>
        rw [List.replicate_succ, fieldsHeadSize, ih, Nat.mul_succ, Nat.add_comm]
        rfl
  rw [wide, headSize, among]

theorem bind_aborts {first : Serialize} {next : Unit → Serialize} {ser : Serializer}
    (aborts : (first ser).1 = .panic) : ((first >>= next) ser).1 = .panic := by
  rw [Op.bind_run]
  rcases run : first ser with ⟨result, after⟩
  rw [run] at aborts
  simp only at aborts
  subst aborts
  rfl

theorem compute_size_aborts {value : Serialize}
    (aborts : (value ⟨.noWriter, .headSize 0 false false⟩).1 = .panic) :
    computeSize value = .panic := by
  rcases run : value ⟨.noWriter, .headSize 0 false false⟩ with ⟨result, after⟩
  rw [run] at aborts
  simp only at aborts
  subst aborts
  rw [computeSize, run]

theorem element_aborts {value : Serialize} (reduction : Nat) (ser : Serializer)
    (aborts : computeSize value = .panic) :
    (serializeTupleElement build value reduction ser).1 = .panic := by
  rcases ser with ⟨writer, pass⟩
  cases pass <;> simp [serializeTupleElement, Op.bind_run, aborts]

theorem element_overflows {value : Serialize} {size before : Nat} {fake : Bool} (reduction : Nat)
    (writer : Writer) (d f : Bool) (sized : computeSize value = .ok (size, false, fake))
    (exceeded : (build.add before size : Outcome Error Nat) = .panic) :
    (serializeTupleElement build value reduction ⟨writer, .headSize before d f⟩).1 = .panic := by
  simp [serializeTupleElement, Op.bind_run, sized, exceeded]

/-- The addition that leaves `usize` aborts, wherever in the sequence it is. -/
theorem zeros_abort (checks : build.overflowChecks = true) (reduction count before : Nat)
    (writer : Writer) (d f : Bool) (small : before < build.usizeRange)
    (large : build.usizeRange ≤ before + slotSize * count) :
    (serializeElements build reduction (List.replicate count (.scalar (.u8 0)))
      ⟨writer, .headSize before d f⟩).1 = .panic := by
  induction count generalizing before d with
  | zero => omega
  | succ count ih =>
      have range := build.usize_range_ge
      have sized := @compute_size_eq build (.scalar (.u8 0)) rfl
        (Build.fits_of_lt (lt_of_lt_of_le (by decide) range))
      -- Either this element leaves `usize`, or the rest does.
      by_cases room : before + slotSize < build.usizeRange
      · have step := @element_head_size build _ _ _ _ sized (exclusive_flags _) reduction writer
          before d f (Build.fits_of_lt room)
        rw [Nat.mod_eq_of_lt small] at step
        rw [List.replicate_succ, serializeElements, Op.bind_ok step]
        apply ih
        · exact Nat.mod_lt _ (by omega)
        · change _ ≤ (before + slotSize) % build.usizeRange + _
          rw [Nat.mod_eq_of_lt room]
          rw [Nat.mul_succ] at large
          omega
      · have exceeded : (build.add before (slotSize % build.usizeRange) : Outcome Error Nat) =
            .panic := by
          rw [Nat.mod_eq_of_lt (by unfold slotSize; omega), Build.add, if_neg room, Build.overflow,
            if_pos checks]
        rw [List.replicate_succ, serializeElements]
        exact bind_aborts (element_overflows reduction writer d f sized exceeded)

theorem wide_aborts (checks : build.overflowChecks = true) {count : Nat}
    (large : build.usizeRange ≤ slotSize + slotSize * count) :
    computeSize ((wide count).serialize build) = .panic := by
  have range := build.usize_range_ge
  have first : (build.add 0 slotSize : Outcome Error Nat) = .ok slotSize :=
    (Build.add_eq (Build.fits_of_lt (by unfold slotSize; omega))).trans
      (by rw [Nat.zero_add, Nat.mod_eq_of_lt (by unfold slotSize; omega)])
  have aborts := zeros_abort checks slotSize count slotSize .noWriter true false
    (by unfold slotSize; omega) large
  have announce : serializeSeq build (some count) ⟨.noWriter, .headSize 0 false false⟩ =
      (.ok (), ⟨.noWriter, .headSize slotSize true false⟩) := by
    simp [serializeSeq, Op.bind_run, first, setPass]
  apply compute_size_aborts
  rw [wide, Value.serialize, Op.bind_ok announce]
  exact aborts

end Wide
end Perun.AbiErrors
