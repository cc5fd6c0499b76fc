import Perun.MachineWord

/-! The streaming serializer of `abiencode/ser.rs`. A value of a `T: Serialize`
is the program it runs on a serializer; the trees below are the calls that serde
makes for it. Nothing is buffered: each of the four passes is a separate
traversal, and a nested traversal shares the writer of its parent. Type and
field names only reach the `explain!` output and are left out, except for the
unit struct name that the serializer compares. -/
namespace Perun.Ser
open BigEndian

inductive Error where
  | typeNotRepresentable (name : String)
  | typeNotYetSupported (name : String)
  deriving DecidableEq

/-- The `W: Writer` of a serializer. A writer that records receives one chunk
for each call of `write`; `NoWriter` panics instead. -/
inductive Writer where
  | noWriter
  | chunks (written : List (List UInt8))
  deriving DecidableEq

inductive Pass where
  | headSize (size : Nat) (isDynamic isFakeDynamic : Bool)
  | head (offset : Nat)
  | tailSize (size : Nat)
  | tail
  deriving DecidableEq

structure Serializer where
  writer : Writer
  pass : Pass
  deriving DecidableEq

abbrev Serialize := Op Error Serializer Unit

def slotSize : Nat := 32

def setPass (pass : Pass) : Serialize := Op.modify fun ser => { ser with pass := pass }

def write (slot : List UInt8) : Serialize := fun ser =>
  match ser.writer with
  | .noWriter => (.panic, ser)
  | .chunks written => (.ok (), { ser with writer := .chunks (written ++ [slot]) })

def writeLeftAlignedSlice (v : List UInt8) : Serialize :=
  if v.length ≤ slotSize then write (v ++ List.replicate (slotSize - v.length) 0)
  else Op.lift .panic

def writeRightAligned (v : List UInt8) : Serialize :=
  if v.length ≤ slotSize then write (List.replicate (slotSize - v.length) 0 ++ v)
  else Op.lift .panic

def writeSigned (negative : Bool) (v : List UInt8) : Serialize :=
  let filler : UInt8 := if negative then 0xff else 0x00
  if v.length ≤ slotSize then write (List.replicate (slotSize - v.length) filler ++ v)
  else Op.lift .panic

/-- `chunks_exact(SLOT_SIZE)`. -/
def chunksExact (v : List UInt8) : List (List UInt8) :=
  (List.range (v.length / slotSize)).map fun i => (v.drop (slotSize * i)).take slotSize

def remainder (v : List UInt8) : List UInt8 := v.drop (slotSize * (v.length / slotSize))

def writeEach : List (List UInt8) → Serialize
  | [] => pure ()
  | chunk :: rest => do
      write chunk
      writeEach rest

/-- The slot loop that `serialize_str` and `serialize_bytes` have in common. -/
def writeSlots (v : List UInt8) : Serialize := do
  writeEach (chunksExact v)
  if (remainder v).isEmpty then pure () else writeLeftAlignedSlice (remainder v)

section Passes
variable (build : Build)

def computeSize (value : Serialize) : Outcome Error (Nat × Bool × Bool) :=
  match value ⟨.noWriter, .headSize 0 false false⟩ with
  | (.ok _, ⟨_, .headSize size isDynamic isFakeDynamic⟩) => .ok (size, isDynamic, isFakeDynamic)
  | (.ok _, _) => .panic
  | (.err error, _) => .err error
  | (.panic, _) => .panic

def getTailSize (value : Serialize) : Outcome Error Nat :=
  match value ⟨.noWriter, .tailSize 0⟩ with
  | (.ok _, ⟨_, .tailSize size⟩) => .ok size
  | (.ok _, _) => .panic
  | (.err error, _) => .err error
  | (.panic, _) => .panic

/-- `Serializer::serialize`: a nested traversal in a pass of its own. -/
def serializeIn (value : Serialize) (pass : Pass) : Serialize := fun ser =>
  let inner := value ⟨ser.writer, pass⟩
  (inner.1, { ser with writer := inner.2.writer })

def serializeTupleElement (value : Serialize) (offsetReduction : Nat) : Serialize := do
  let ser ← Op.get
  match ser.pass with
  | .headSize size isDynamic isFakeDynamic => do
      let (elementSize, isDyn, isFakeDyn) ← Op.lift (computeSize value)
      let size ← Op.lift (build.add size (if isDyn && !isFakeDyn then slotSize else elementSize))
      setPass (.headSize size (isDynamic || (isDyn || isFakeDyn)) isFakeDynamic)
  | .head offset => do
      let (fieldHeadSize, isDyn, isFakeDyn) ← Op.lift (computeSize value)
      if isDyn && !isFakeDyn then do
        let position ← Op.lift (build.sub offset offsetReduction)
        writeRightAligned (build.usizeToBeBytes position)
        let offset ← Op.lift (build.add offset fieldHeadSize)
        let fieldTailSize ← Op.lift (getTailSize value)
        let offset ← Op.lift (build.add offset fieldTailSize)
        setPass (.head offset)
      else
        serializeIn value (.head build.usizeMax)
  | .tailSize size => do
      let (fieldHeadSize, isDyn, isFakeDyn) ← Op.lift (computeSize value)
      let fieldTailSize ← Op.lift (getTailSize value)
      let size ← Op.lift (build.add size (if isDyn && !isFakeDyn then fieldHeadSize else 0))
      let size ← Op.lift (build.add size fieldTailSize)
      setPass (.tailSize size)
  | .tail => do
      let (fieldHeadSize, isDyn, isFakeDyn) ← Op.lift (computeSize value)
      if isDyn && !isFakeDyn then do
        serializeIn value (.head fieldHeadSize)
        serializeIn value .tail
      else pure ()

/-! The methods of `ser::Serializer`. -/

/-- The body shared by the integer methods, which differ in how they fill a slot. -/
def serializeSlot (fill : Serialize) : Serialize := do
  let ser ← Op.get
  match ser.pass with
  | .headSize size isDynamic isFakeDynamic => do
      let size ← Op.lift (build.add size slotSize)
      setPass (.headSize size isDynamic isFakeDynamic)
  | .head _ => fill
  | .tailSize _ => pure ()
  | .tail => pure ()

/-- `to_be_bytes` of a fixed-width integer. -/
def toBeBytes {bits : Nat} (v : BitVec bits) : List UInt8 := bigEndian (bits / 8) v.toNat

def serializeI8 (v : BitVec 8) : Serialize :=
  serializeSlot build (writeSigned (v.toInt < 0) (toBeBytes v))

def serializeI16 (v : BitVec 16) : Serialize :=
  serializeSlot build (writeSigned (v.toInt < 0) (toBeBytes v))

def serializeI32 (v : BitVec 32) : Serialize :=
  serializeSlot build (writeSigned (v.toInt < 0) (toBeBytes v))

def serializeI64 (v : BitVec 64) : Serialize :=
  serializeSlot build (writeSigned (v.toInt < 0) (toBeBytes v))

-- Unlike its siblings this one is zero-extended.
def serializeI128 (v : BitVec 128) : Serialize :=
  serializeSlot build (writeRightAligned (toBeBytes v))

def serializeU8 (v : BitVec 8) : Serialize := serializeSlot build (writeRightAligned (toBeBytes v))

def serializeU16 (v : BitVec 16) : Serialize :=
  serializeSlot build (writeRightAligned (toBeBytes v))

def serializeU32 (v : BitVec 32) : Serialize :=
  serializeSlot build (writeRightAligned (toBeBytes v))

def serializeU64 (v : BitVec 64) : Serialize :=
  serializeSlot build (writeRightAligned (toBeBytes v))

def serializeU128 (v : BitVec 128) : Serialize :=
  serializeSlot build (writeRightAligned (toBeBytes v))

def serializeBool (v : Bool) : Serialize := serializeU8 build (if v then 1 else 0)

/-- `(len - r) + (if r == 0 { 0 } else { SLOT_SIZE })`, the padded data size. -/
def paddedSize (length : Nat) : Outcome Error Nat :=
  let r := length % slotSize
  build.add (length - r) (if r = 0 then 0 else slotSize)

def serializeStr (v : List UInt8) : Serialize := do
  let ser ← Op.get
  match ser.pass with
  | .headSize size _ isFakeDynamic => setPass (.headSize size true isFakeDynamic)
  | .head _ => pure ()
  | .tailSize size => do
      let r := v.length % slotSize
      let chunks ← Op.lift (build.add slotSize (v.length - r))
      let tailSize ← Op.lift (build.add chunks (if r = 0 then 0 else slotSize))
      let size ← Op.lift (build.add size tailSize)
      setPass (.tailSize size)
  | .tail => do
      writeRightAligned (build.usizeToBeBytes v.length)
      writeSlots v

def serializeBytes (v : List UInt8) : Serialize := do
  let ser ← Op.get
  match ser.pass with
  | .headSize size isDynamic isFakeDynamic => do
      let padded ← Op.lift (paddedSize build v.length)
      let size ← Op.lift (build.add size padded)
      setPass (.headSize size isDynamic isFakeDynamic)
  | .head _ => writeSlots v
  | .tailSize _ => pure ()
  | .tail => pure ()

def markDynamicName : String := ":$&_DYNAMIC"

def serializeUnitStruct (name : String) : Serialize :=
  if name = markDynamicName then do
    let ser ← Op.get
    match ser.pass with
    | .headSize size isDynamic _ => setPass (.headSize size isDynamic true)
    | .head _ => pure ()
    | .tailSize _ => pure ()
    | .tail => pure ()
  else Op.fail (.typeNotRepresentable "unit struct")

def serializeNewtypeStruct (value : Serialize) : Serialize := serializeTupleElement build value 0

def serializeSeq (length : Option Nat) : Serialize := do
  let ser ← Op.get
  match ser.pass with
  | .headSize size _ isFakeDynamic => do
      let size ← Op.lift (build.add size slotSize)
      setPass (.headSize size true isFakeDynamic)
  | .head _ => do
      let length ← Op.lift (Outcome.unwrap length)
      writeRightAligned (build.usizeToBeBytes length)
  | .tailSize _ => pure ()
  | .tail => pure ()

/-- The write passes of `to_writer_internal`, after the size pass. -/
def writePasses (value : Serialize) (isDynamic includeOuterStruct : Bool) : Serialize := do
  if isDynamic && includeOuterStruct then writeRightAligned (build.usizeToBeBytes slotSize)
  else pure ()
  value
  if isDynamic then do
    setPass .tail
    value
  else pure ()

def toWriterInternal (value : Serialize) (includeOuterStruct : Bool) : Op Error Writer Unit := do
  let (headSize, isDynamic, _) ← Op.lift (computeSize value)
  let writer ← Op.get
  let final := writePasses build value isDynamic includeOuterStruct ⟨writer, .head headSize⟩
  Op.modify fun _ => final.2.writer
  Op.lift final.1

def toWriter (value : Serialize) : Op Error Writer Unit := toWriterInternal build value true

end Passes

/-! The trees of serde calls. -/

inductive Scalar where
  | bool (v : Bool)
  | i8 (v : BitVec 8)
  | i16 (v : BitVec 16)
  | i32 (v : BitVec 32)
  | i64 (v : BitVec 64)
  | i128 (v : BitVec 128)
  | u8 (v : BitVec 8)
  | u16 (v : BitVec 16)
  | u32 (v : BitVec 32)
  | u64 (v : BitVec 64)
  | u128 (v : BitVec 128)
  deriving DecidableEq

def Scalar.serialize (build : Build) : Scalar → Serialize
  | .bool v => serializeBool build v
  | .i8 v => serializeI8 build v
  | .i16 v => serializeI16 build v
  | .i32 v => serializeI32 build v
  | .i64 v => serializeI64 build v
  | .i128 v => serializeI128 build v
  | .u8 v => serializeU8 build v
  | .u16 v => serializeU16 build v
  | .u32 v => serializeU32 build v
  | .u64 v => serializeU64 build v
  | .u128 v => serializeU128 build v

/-- The methods that only return an error. -/
inductive Unsupported where
  | f32
  | f64
  | char
  | none
  | some
  | unit
  | unitVariant
  | newtypeVariant
  | tupleVariant
  | map
  | structVariant
  deriving DecidableEq

def Unsupported.error : Unsupported → Error
  | .f32 => .typeNotRepresentable "f32"
  | .f64 => .typeNotRepresentable "f64"
  | .char => .typeNotYetSupported "char"
  | .none => .typeNotRepresentable "none"
  | .some => .typeNotRepresentable "some"
  | .unit => .typeNotRepresentable "unit"
  | .unitVariant => .typeNotRepresentable "unit variant (enum)"
  | .newtypeVariant => .typeNotRepresentable "newtype variant (enum)"
  | .tupleVariant => .typeNotRepresentable "struct variant"
  | .map => .typeNotRepresentable "map"
  | .structVariant => .typeNotRepresentable "struct variant"

/-- `serialize_tuple`, `serialize_tuple_struct` and `serialize_struct`: all
three return the serializer unchanged and add each field in the same way. -/
inductive Compound where
  | tuple
  | tupleStruct
  | struct
  deriving DecidableEq

/-- A value as the calls its `Serialize` implementation makes. A string is its
UTF-8 bytes. The payload of an unsupported node is never visited. -/
inductive Value where
  | scalar (v : Scalar)
  | str (v : List UInt8)
  | bytes (v : List UInt8)
  | unitStruct (name : String)
  | newtypeStruct (inner : Value)
  | seq (length : Option Nat) (elements : List Value)
  | compound (kind : Compound) (fields : List Value)
  | unsupported (kind : Unsupported) (payload : List Value)

mutual
def Value.serialize (build : Build) : Value → Serialize
  | .scalar v => v.serialize build
  | .str v => serializeStr build v
  | .bytes v => serializeBytes build v
  | .unitStruct name => serializeUnitStruct name
  | .newtypeStruct inner => serializeNewtypeStruct build (inner.serialize build)
  | .seq length elements => do
      serializeSeq build length
      serializeElements build slotSize elements
  | .compound _ fields => serializeElements build 0 fields
  | .unsupported kind _ => Op.fail kind.error

/-- `serialize_element`/`serialize_field` on each member. The length slot of a
sequence is part of its head but does not count towards its offsets. -/
def serializeElements (build : Build) (offsetReduction : Nat) : List Value → Serialize
  | [] => pure ()
  | element :: rest => do
      serializeTupleElement build (element.serialize build) offsetReduction
      serializeElements build offsetReduction rest
end

/-- `DynamicMarker`. -/
def Value.dynamicMarker : Value := .unitStruct markDynamicName

/-- `as_bytes::serialize`: a marked tuple of length and data. -/
def asBytes (v : List UInt8) : Value :=
  .compound .tuple [.dynamicMarker, .scalar (.u64 (BitVec.ofNat 64 v.length)), .bytes v]

/-- `as_dyn_array::serialize`. -/
def asDynArray (v : List Value) : Value := .seq (some v.length) v

/-- The bytes a recording writer has received. -/
def Writer.stream : Writer → List UInt8
  | .noWriter => []
  | .chunks written => written.flatten

/-- Runs `to_writer` on a fresh recording writer. -/
def Value.toWriter (build : Build) (value : Value) : Outcome Error Unit × Writer :=
  Ser.toWriter build (value.serialize build) (.chunks [])

/-- Case analysis over a tree with a hypothesis for every child. -/
@[elab_as_elim]
theorem Value.induction {motive : Value → Prop}
    (scalar : ∀ v, motive (.scalar v)) (str : ∀ v, motive (.str v))
    (bytes : ∀ v, motive (.bytes v)) (unitStruct : ∀ name, motive (.unitStruct name))
    (newtypeStruct : ∀ inner, motive inner → motive (.newtypeStruct inner))
    (seq : ∀ length elements, (∀ element ∈ elements, motive element) →
      motive (.seq length elements))
    (compound : ∀ kind fields, (∀ field ∈ fields, motive field) → motive (.compound kind fields))
    (unsupported : ∀ kind payload, motive (.unsupported kind payload))
    (value : Value) : motive value := by
  refine Value.rec (motive_1 := motive) (motive_2 := fun values => ∀ v ∈ values, motive v)
    scalar str bytes unitStruct newtypeStruct seq compound (fun kind payload _ =>
      unsupported kind payload) ?_ ?_ value
  · intro v member
    cases member
  · intro first rest ofFirst ofRest v member
    rcases List.mem_cons.mp member with same | later
    · exact same ▸ ofFirst
    · exact ofRest v later

end Perun.Ser
