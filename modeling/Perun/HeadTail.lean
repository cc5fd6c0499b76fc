import Perun.BigEndian

/-! Head/tail encoding of nested data in 32-byte slots. A dynamic component is
represented in the head by the offset of its tail, counted from the start of
the enclosing tuple; the tails follow the heads in order. The function that
renders an offset is a parameter: the standard encoding uses its full value,
an implementation may only have a machine word of it. -/
namespace Perun.HeadTail
open BigEndian

/-- A number in one slot. -/
def number (n : Nat) : List UInt8 := bigEndian 32 n

def padding (length : Nat) : Nat := (32 - length % 32) % 32

def padRight (data : List UInt8) : List UInt8 :=
  data ++ List.replicate (padding data.length) 0

@[simp] theorem number_length (n : Nat) : (number n).length = 32 := bigEndian_length 32 n

theorem padRight_length (data : List UInt8) :
    (padRight data).length = data.length + padding data.length := by
  simp [padRight]

theorem number_inj {n m : Nat} (n_lt : n < 256 ^ 32) (m_lt : m < 256 ^ 32)
    (same : number n = number m) : n = m := bigEndian_inj n_lt m_lt same

/-! One encoded component of a tuple. -/
section Assembly

structure Part where
  dynamic : Bool
  bytes : List UInt8

def Part.headSize (part : Part) : Nat := if part.dynamic then 32 else part.bytes.length

def Part.tail (part : Part) : List UInt8 := if part.dynamic then part.bytes else []

def headSize (parts : List Part) : Nat := (parts.map Part.headSize).sum

variable (offsetWord : Nat → List UInt8)

def heads : Nat → List Part → List UInt8
  | _, [] => []
  | offset, part :: rest =>
      if part.dynamic then offsetWord offset ++ heads (offset + part.bytes.length) rest
      else part.bytes ++ heads offset rest

def tails (parts : List Part) : List UInt8 := parts.flatMap Part.tail

def assemble (parts : List Part) : List UInt8 :=
  heads offsetWord (headSize parts) parts ++ tails parts

variable {offsetWord} (slots : ∀ n, (offsetWord n).length = 32)
include slots

theorem heads_length (offset : Nat) (parts : List Part) :
    (heads offsetWord offset parts).length = headSize parts := by
  induction parts generalizing offset with
  | nil => rfl
  | cons part rest ih =>
      cases dynamic : part.dynamic <;>
        simp [heads, headSize, Part.headSize, dynamic, slots] at ih ⊢ <;> exact ih _

theorem assemble_length (parts : List Part) :
    (assemble offsetWord parts).length = headSize parts + (tails parts).length := by
  rw [assemble, List.length_append, heads_length slots]

end Assembly

inductive Layout where
  | word (bytes : List UInt8)
  | blob (data : List UInt8)
  | tuple (fields : List Layout)
  | array (elements : List Layout)

mutual
def Layout.dynamic : Layout → Bool
  | .word _ => false
  | .blob _ => true
  | .tuple fields => anyDynamic fields
  | .array _ => true

def anyDynamic : List Layout → Bool
  | [] => false
  | field :: rest => field.dynamic || anyDynamic rest
end

section Encoding
variable (offsetWord : Nat → List UInt8)

mutual
def encodeWith : Layout → List UInt8
  | .word bytes => bytes
  | .blob data => number data.length ++ padRight data
  | .tuple fields => assemble offsetWord (partsWith fields)
  | .array elements => number elements.length ++ assemble offsetWord (partsWith elements)

def partsWith : List Layout → List Part
  | [] => []
  | field :: rest => ⟨field.dynamic, encodeWith field⟩ :: partsWith rest
end

/-- The standard encoding renders offsets in full. -/
def encode : Layout → List UInt8 := encodeWith number

end Encoding

/-- Case analysis over a layout with a hypothesis for every child. -/
@[elab_as_elim]
theorem Layout.induction {motive : Layout → Prop} (word : ∀ bytes, motive (.word bytes))
    (blob : ∀ data, motive (.blob data))
    (tuple : ∀ fields, (∀ field ∈ fields, motive field) → motive (.tuple fields))
    (array : ∀ elements, (∀ element ∈ elements, motive element) → motive (.array elements))
    (layout : Layout) : motive layout := by
  refine Layout.rec (motive_1 := motive) (motive_2 := fun layouts => ∀ l ∈ layouts, motive l)
    word blob tuple array ?_ ?_ layout
  · intro l member
    cases member
  · intro first rest ofFirst ofRest l member
    rcases List.mem_cons.mp member with same | later
    · exact same ▸ ofFirst
    · exact ofRest l later

/-! An offset is never larger than the encoding it occurs in, so a rendering that
is faithful up to that size gives the standard encoding. -/
section Rendering
variable {offsetWord offsetWord' : Nat → List UInt8} {limit : Nat}

theorem heads_congr (agree : ∀ n < limit, offsetWord n = offsetWord' n) (offset : Nat)
    (parts : List Part) (bounded : offset + (tails parts).length < limit) :
    heads offsetWord offset parts = heads offsetWord' offset parts := by
  induction parts generalizing offset with
  | nil => rfl
  | cons part rest ih =>
      simp only [tails, List.flatMap_cons, List.length_append] at bounded
      cases dynamic : part.dynamic with
      | true =>
          simp only [Part.tail, dynamic, ↓reduceIte] at bounded
          have later := ih (offset + part.bytes.length) (by unfold tails; omega)
          simp only [heads, dynamic, ↓reduceIte, agree offset (by omega), later]
      | false =>
          have later := ih offset (by unfold tails; omega)
          simp only [heads, dynamic, Bool.false_eq_true, ↓reduceIte, later]

theorem part_le_assemble (slots : ∀ n, (offsetWord n).length = 32) (parts : List Part)
    (part : Part) (member : part ∈ parts) :
    part.bytes.length ≤ (assemble offsetWord parts).length := by
  rw [assemble_length slots]
  induction parts with
  | nil => cases member
  | cons first rest ih =>
      simp only [headSize, List.map_cons, List.sum_cons, tails, List.flatMap_cons,
        List.length_append]
      rcases List.mem_cons.mp member with same | later
      · subst same
        cases dynamic : part.dynamic <;> simp [Part.headSize, Part.tail, dynamic] <;> omega
      · have bound := ih later
        simp only [headSize, tails] at bound
        omega

theorem parts_mem (offsetWord : Nat → List UInt8) (field : Layout) (fields : List Layout)
    (member : field ∈ fields) :
    (⟨field.dynamic, encodeWith offsetWord field⟩ : Part) ∈ partsWith offsetWord fields := by
  induction fields with
  | nil => cases member
  | cons first rest ih =>
      rw [partsWith]
      rcases List.mem_cons.mp member with same | later
      · exact same ▸ List.mem_cons_self
      · exact List.mem_cons_of_mem _ (ih later)

variable (slots' : ∀ n, (offsetWord' n).length = 32)
  (agree : ∀ n < limit, offsetWord n = offsetWord' n)
include slots' agree

theorem assemble_congr (fields : List Layout)
    (each : ∀ field ∈ fields, (encodeWith offsetWord' field).length < limit →
      encodeWith offsetWord field = encodeWith offsetWord' field)
    (bounded : (assemble offsetWord' (partsWith offsetWord' fields)).length < limit) :
    assemble offsetWord (partsWith offsetWord fields) =
      assemble offsetWord' (partsWith offsetWord' fields) := by
  have fieldsAgree : ∀ field ∈ fields,
      encodeWith offsetWord field = encodeWith offsetWord' field := by
    intro field member
    have bound := part_le_assemble slots' _ _ (parts_mem offsetWord' field fields member)
    exact each field member (Nat.lt_of_le_of_lt bound bounded)
  have partsAgree : partsWith offsetWord fields = partsWith offsetWord' fields := by
    clear each bounded
    induction fields with
    | nil => rfl
    | cons field rest ih =>
        rw [partsWith, partsWith, fieldsAgree field List.mem_cons_self,
          ih fun f member => fieldsAgree f (List.mem_cons_of_mem field member)]
  rw [assemble_length slots'] at bounded
  rw [partsAgree, assemble, assemble, heads_congr agree _ _ bounded]

theorem encode_with_congr (layout : Layout)
    (bounded : (encodeWith offsetWord' layout).length < limit) :
    encodeWith offsetWord layout = encodeWith offsetWord' layout := by
  induction layout using Layout.induction with
  | word bytes => simp only [encodeWith]
  | blob data => simp only [encodeWith]
  | tuple fields ih => exact assemble_congr slots' agree fields ih bounded
  | array elements ih =>
      simp only [encodeWith, List.length_append] at bounded ⊢
      rw [assemble_congr slots' agree elements ih (by omega)]

end Rendering

/-! Unique decodability. The offsets are redundant: lengths and the shape alone
delimit every component, so two encodings of one shape that start alike are
encodings of one value, whatever the offsets say. -/
section Decoding

inductive Shape where
  | word
  | blob
  | tuple (fields : List Shape)
  | array (element : Shape)

mutual
def HasShape : Shape → Layout → Prop
  | .word, .word bytes => bytes.length = 32
  | .blob, .blob data => data.length < 256 ^ 32
  | .tuple shapes, .tuple fields => FieldsHaveShape shapes fields
  | .array shape, .array elements =>
      elements.length < 256 ^ 32 ∧ ∀ element ∈ elements, HasShape shape element
  | _, _ => False

def FieldsHaveShape : List Shape → List Layout → Prop
  | [], [] => True
  | shape :: shapes, field :: fields => HasShape shape field ∧ FieldsHaveShape shapes fields
  | _, _ => False
end

variable {offsetWord : Nat → List UInt8}

/-- Neither layout's encoding can be confused with the other's, even when
followed by further bytes. -/
def Separates (offsetWord : Nat → List UInt8) (left right : Layout) : Prop :=
  left.dynamic = right.dynamic ∧
    ∀ after after', encodeWith offsetWord left ++ after = encodeWith offsetWord right ++ after' →
      left = right ∧ after = after'

theorem padRight_separates (data data' after after' : List UInt8)
    (sameLength : data.length = data'.length)
    (same : padRight data ++ after = padRight data' ++ after') : data = data' ∧ after = after' := by
  have lengths : (padRight data).length = (padRight data').length := by
    rw [padRight_length, padRight_length, sameLength]
  obtain ⟨padded, rest⟩ := List.append_inj same lengths
  exact ⟨(List.append_inj padded sameLength).1, rest⟩

theorem blob_separates (data data' : List UInt8) (data_lt : data.length < 256 ^ 32)
    (data_lt' : data'.length < 256 ^ 32) :
    Separates offsetWord (.blob data) (.blob data') := by
  refine ⟨rfl, fun after after' same => ?_⟩
  simp only [encodeWith, List.append_assoc] at same
  obtain ⟨lengthWord, rest⟩ := List.append_inj same (by simp)
  obtain ⟨sameData, sameRest⟩ :=
    padRight_separates data data' after after' (number_inj data_lt data_lt' lengthWord) rest
  exact ⟨by rw [sameData], sameRest⟩

theorem word_separates (bytes bytes' : List UInt8) (slot : bytes.length = 32)
    (slot' : bytes'.length = 32) : Separates offsetWord (.word bytes) (.word bytes') := by
  refine ⟨rfl, fun after after' same => ?_⟩
  simp only [encodeWith] at same
  obtain ⟨sameBytes, rest⟩ := List.append_inj same (slot.trans slot'.symm)
  exact ⟨by rw [sameBytes], rest⟩

-- The head section settles the static fields and where the tails begin.
theorem heads_separate (slots : ∀ n, (offsetWord n).length = 32)
    {fields fields' : List Layout} (related : List.Forall₂ (Separates offsetWord) fields fields')
    (offset offset' : Nat) (after after' : List UInt8)
    (same : heads offsetWord offset (partsWith offsetWord fields) ++ after =
      heads offsetWord offset' (partsWith offsetWord fields') ++ after') :
    List.Forall₂ (fun field field' => field.dynamic = false → field = field') fields fields' ∧
      after = after' := by
  induction related generalizing offset offset' with
  | nil => exact ⟨List.Forall₂.nil, same⟩
  | @cons field field' rest rest' first _ ih =>
      obtain ⟨flag, separated⟩ := first
      cases dynamic : field.dynamic with
      | false =>
          rw [dynamic] at flag
          simp only [partsWith, heads, dynamic, ← flag, Bool.false_eq_true, ↓reduceIte,
            List.append_assoc] at same
          obtain ⟨sameField, sameRest⟩ := separated _ _ same
          obtain ⟨fieldsAgree, agree⟩ := ih _ _ sameRest
          exact ⟨List.Forall₂.cons (fun _ => sameField) fieldsAgree, agree⟩
      | true =>
          rw [dynamic] at flag
          simp only [partsWith, heads, dynamic, ← flag, ↓reduceIte, List.append_assoc] at same
          obtain ⟨_, sameRest⟩ := List.append_inj same ((slots _).trans (slots _).symm)
          obtain ⟨fieldsAgree, agree⟩ := ih _ _ sameRest
          refine ⟨List.Forall₂.cons (fun static => ?_) fieldsAgree, agree⟩
          rw [dynamic] at static
          contradiction

-- The tail section settles the dynamic fields.
theorem tails_separate
    {fields fields' : List Layout} (related : List.Forall₂ (Separates offsetWord) fields fields')
    (after after' : List UInt8)
    (same : tails (partsWith offsetWord fields) ++ after =
      tails (partsWith offsetWord fields') ++ after') :
    List.Forall₂ (fun field field' => field.dynamic = true → field = field') fields fields' ∧
      after = after' := by
  induction related with
  | nil => exact ⟨List.Forall₂.nil, same⟩
  | @cons field field' rest rest' first _ ih =>
      obtain ⟨flag, separated⟩ := first
      cases dynamic : field.dynamic with
      | false =>
          rw [dynamic] at flag
          simp only [partsWith, tails, List.flatMap_cons, Part.tail, dynamic, ← flag,
            Bool.false_eq_true, ↓reduceIte, List.nil_append] at same
          obtain ⟨fieldsAgree, agree⟩ := ih same
          refine ⟨List.Forall₂.cons (fun isDynamic => ?_) fieldsAgree, agree⟩
          rw [dynamic] at isDynamic
          contradiction
      | true =>
          rw [dynamic] at flag
          simp only [partsWith, tails, List.flatMap_cons, Part.tail, dynamic, ← flag, ↓reduceIte,
            List.append_assoc] at same
          obtain ⟨sameField, sameRest⟩ := separated _ _ same
          obtain ⟨fieldsAgree, agree⟩ := ih sameRest
          exact ⟨List.Forall₂.cons (fun _ => sameField) fieldsAgree, agree⟩

theorem fields_agree {fields fields' : List Layout}
    (static : List.Forall₂ (fun field field' => field.dynamic = false → field = field')
      fields fields')
    (dynamic : List.Forall₂ (fun field field' => field.dynamic = true → field = field')
      fields fields') : fields = fields' := by
  induction static with
  | nil => rfl
  | @cons field field' _ _ first _ ih =>
      cases dynamic with
      | cons first' rest' =>
          have same : field = field' := by
            cases flag : field.dynamic
            · exact first flag
            · exact first' flag
          rw [same, ih rest']

theorem assemble_separates (slots : ∀ n, (offsetWord n).length = 32)
    {fields fields' : List Layout} (related : List.Forall₂ (Separates offsetWord) fields fields')
    (after after' : List UInt8)
    (same : assemble offsetWord (partsWith offsetWord fields) ++ after =
      assemble offsetWord (partsWith offsetWord fields') ++ after') :
    fields = fields' ∧ after = after' := by
  simp only [assemble, List.append_assoc] at same
  obtain ⟨static, rest⟩ := heads_separate slots related _ _ _ _ same
  obtain ⟨dynamic, rest⟩ := tails_separate related _ _ rest
  exact ⟨fields_agree static dynamic, rest⟩

theorem any_dynamic_congr {fields fields' : List Layout}
    (related : List.Forall₂ (Separates offsetWord) fields fields') :
    anyDynamic fields = anyDynamic fields' := by
  induction related with
  | nil => rfl
  | cons first _ ih => rw [anyDynamic, anyDynamic, first.1, ih]

theorem tuple_separates (slots : ∀ n, (offsetWord n).length = 32)
    {fields fields' : List Layout} (related : List.Forall₂ (Separates offsetWord) fields fields') :
    Separates offsetWord (.tuple fields) (.tuple fields') := by
  refine ⟨any_dynamic_congr related, fun after after' same => ?_⟩
  obtain ⟨sameFields, rest⟩ := assemble_separates slots related after after' same
  exact ⟨by rw [sameFields], rest⟩

theorem array_separates (slots : ∀ n, (offsetWord n).length = 32)
    {elements elements' : List Layout}
    (length_lt : elements.length < 256 ^ 32) (length_lt' : elements'.length < 256 ^ 32)
    (related : ∀ element ∈ elements, ∀ element' ∈ elements', Separates offsetWord element element') :
    Separates offsetWord (.array elements) (.array elements') := by
  refine ⟨rfl, fun after after' same => ?_⟩
  simp only [encodeWith, List.append_assoc] at same
  obtain ⟨lengthWord, rest⟩ := List.append_inj same (by simp)
  have sameLength := number_inj length_lt length_lt' lengthWord
  have paired : List.Forall₂ (Separates offsetWord) elements elements' := by
    refine List.forall₂_iff_get.mpr ⟨sameLength, fun i bound bound' => ?_⟩
    exact related _ (List.get_mem _ _) _ (List.get_mem _ _)
  obtain ⟨sameElements, sameRest⟩ := assemble_separates slots paired after after' rest
  exact ⟨by rw [sameElements], sameRest⟩

mutual
theorem shape_separates (slots : ∀ n, (offsetWord n).length = 32) :
    (shape : Shape) → (left right : Layout) → HasShape shape left → HasShape shape right →
      Separates offsetWord left right
  | .word, .word bytes, .word bytes', slot, slot' => word_separates bytes bytes' slot slot'
  | .blob, .blob data, .blob data', short, short' => blob_separates data data' short short'
  | .tuple shapes, .tuple fields, .tuple fields', shaped, shaped' =>
      tuple_separates slots (fields_separate slots shapes fields fields' shaped shaped')
  | .array shape, .array _, .array _, shaped, shaped' =>
      array_separates slots shaped.1 shaped'.1 fun element member element' member' =>
        shape_separates slots shape element element' (shaped.2 element member)
          (shaped'.2 element' member')

theorem fields_separate (slots : ∀ n, (offsetWord n).length = 32) :
    (shapes : List Shape) → (fields fields' : List Layout) → FieldsHaveShape shapes fields →
      FieldsHaveShape shapes fields' → List.Forall₂ (Separates offsetWord) fields fields'
  | [], [], [], _, _ => List.Forall₂.nil
  | shape :: shapes, field :: fields, field' :: fields', shaped, shaped' =>
      List.Forall₂.cons (shape_separates slots shape field field' shaped.1 shaped'.1)
        (fields_separate slots shapes fields fields' shaped.2 shaped'.2)
end

/-- Two layouts of one shape with the same encoding are equal. -/
theorem encode_with_inj (slots : ∀ n, (offsetWord n).length = 32) (shape : Shape)
    (left right : Layout) (shaped : HasShape shape left) (shaped' : HasShape shape right)
    (same : encodeWith offsetWord left = encodeWith offsetWord right) : left = right := by
  have separated := shape_separates slots shape left right shaped shaped'
  exact (separated.2 [] [] (by simpa using same)).1

end Decoding
end Perun.HeadTail
