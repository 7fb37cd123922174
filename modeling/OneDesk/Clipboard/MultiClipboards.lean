import OneDesk.Lib.Utf8
import Mathlib.Algebra.Group.Nat.Defs

/-!
# Clipboard items on the wire

The items of a clipboard are sent together.  The contents of each are compressed where that
makes them shorter, and sent as they are where it does not.
-/

namespace OneDesk
namespace Clipboard
namespace Multi

open OneDesk.Lib

/-- Bytes of contents. -/
abbrev Bytes := List UInt8

/-- A compression that can be undone; it need not make anything shorter. -/
structure Compressor where
  compress : Bytes → Bytes
  decompress : Bytes → Bytes
  decompress_compress : ∀ bytes, decompress (compress bytes) = bytes

/-- An image of the clipboard. -/
inductive ImageData where
  | rgba (width height : BitVec 64) (bytes : Bytes)
  | png (bytes : Bytes)
  | svg (text : List Char)
  deriving DecidableEq

/-- `ImageData::bytes`. -/
def ImageData.bytes : ImageData → Bytes
  | .rgba _ _ bytes => bytes
  | .png bytes => bytes
  | .svg text => utf8 text

/-- An item of the clipboard; the kinds that are not sent are one. -/
inductive ClipboardData where
  | text (text : List Char)
  | rtf (text : List Char)
  | html (text : List Char)
  | image (image : ImageData)
  | special (name : List Char) (bytes : Bytes)
  | other
  deriving DecidableEq

/-- The formats that a message can name. -/
inductive ClipboardFormat where
  | text
  | rtf
  | html
  | imageRgba
  | imagePng
  | imageSvg
  | special
  deriving DecidableEq

/-- The number of a format in a message. -/
def ClipboardFormat.value : ClipboardFormat → Int
  | .text => 0
  | .rtf => 1
  | .html => 2
  | .imageRgba => 21
  | .imagePng => 22
  | .imageSvg => 23
  | .special => 31

/-- `EnumOrUnknown::enum_value`. -/
def enumValue (number : Int) : Option ClipboardFormat :=
  if number = 0 then some .text
  else if number = 1 then some .rtf
  else if number = 2 then some .html
  else if number = 21 then some .imageRgba
  else if number = 22 then some .imagePng
  else if number = 23 then some .imageSvg
  else if number = 31 then some .special
  else none

@[simp] theorem enumValue_value (format : ClipboardFormat) :
    enumValue format.value = some format := by
  cases format <;> rfl

/-- The message of one item. -/
structure ProtoClipboard where
  compress : Bool := false
  content : Bytes := []
  width : BitVec 32 := 0
  height : BitVec 32 := 0
  format : Int := 0
  specialName : List Char := []
  deriving DecidableEq

/-! ## To the wire -/

/-- Whether compressing makes contents shorter. -/
def Compressor.Shortens (compressor : Compressor) (bytes : Bytes) : Prop :=
  (compressor.compress bytes).length < bytes.length

instance (compressor : Compressor) (bytes : Bytes) : Decidable (compressor.Shortens bytes) :=
  inferInstanceAs (Decidable (_ < _))

/-- Contents under a format, compressed only if that makes them shorter. -/
def packed (compressor : Compressor) (bytes : Bytes) (format : ClipboardFormat) :
    ProtoClipboard :=
  let compress := decide (compressor.Shortens bytes)
  { compress,
    content := if compress then compressor.compress bytes else bytes
    format := format.value }

def plainToProto (compressor : Compressor) (text : List Char) (format : ClipboardFormat) :
    ProtoClipboard :=
  packed compressor (utf8 text) format

def imageToProto (compressor : Compressor) (image : ImageData) : ProtoClipboard :=
  match image with
  | .rgba width height _ =>
      { packed compressor image.bytes .imageRgba with
        width := width.setWidth 32
        height := height.setWidth 32 }
  | .png png => { content := png, format := ClipboardFormat.imagePng.value }
  | .svg _ => packed compressor image.bytes .imageSvg

def specialToProto (compressor : Compressor) (bytes : Bytes) (name : List Char) :
    ProtoClipboard :=
  let compress := decide (compressor.Shortens bytes)
  { compress,
    -- what is not compressed is the name, not the contents
    content := if compress then compressor.compress bytes else utf8 name
    format := ClipboardFormat.special.value
    specialName := name }

def clipboardDataToProto (compressor : Compressor) : ClipboardData → Option ProtoClipboard
  | .text text => some (plainToProto compressor text .text)
  | .rtf text => some (plainToProto compressor text .rtf)
  | .html text => some (plainToProto compressor text .html)
  | .image image => some (imageToProto compressor image)
  | .special name bytes => some (specialToProto compressor bytes name)
  | .other => none

def createMultiClipboards (compressor : Compressor) (items : List ClipboardData) :
    List ProtoClipboard :=
  items.filterMap (clipboardDataToProto compressor)

/-! ## From the wire -/

/-- The contents of a message, decompressed where they were compressed. -/
def ProtoClipboard.data (compressor : Compressor) (clipboard : ProtoClipboard) : Bytes :=
  if clipboard.compress then compressor.decompress clipboard.content else clipboard.content

def fromClipboard (compressor : Compressor) (clipboard : ProtoClipboard) :
    Option ClipboardData :=
  let data := clipboard.data compressor
  match enumValue clipboard.format with
  | some .text => (fromUtf8 data).map .text
  | some .rtf => (fromUtf8 data).map .rtf
  | some .html => (fromUtf8 data).map .html
  | some .imageRgba =>
      some (.image (.rgba (clipboard.width.signExtend 64) (clipboard.height.signExtend 64) data))
  | some .imagePng => some (.image (.png data))
  | some .imageSvg => some (.image (.svg ((fromUtf8 data).getD [])))
  | some .special => some (.special clipboard.specialName data)
  | none => none

def fromMultiClipboards (compressor : Compressor) (clipboards : List ProtoClipboard) :
    List ClipboardData :=
  clipboards.filterMap (fromClipboard compressor)

/-! ## What survives -/

variable (compressor : Compressor)

@[simp] theorem data_packed (bytes : Bytes) (format : ClipboardFormat) :
    (packed compressor bytes format).data compressor = bytes := by
  by_cases shorter : compressor.Shortens bytes
  · simp [ProtoClipboard.data, packed, shorter, compressor.decompress_compress]
  · simp [ProtoClipboard.data, packed, shorter]

/-- A special item is read back with its own contents or with its name. -/
theorem data_specialToProto (bytes : Bytes) (name : List Char) :
    (specialToProto compressor bytes name).data compressor =
      if compressor.Shortens bytes then bytes else utf8 name := by
  by_cases shorter : compressor.Shortens bytes
  · simp [ProtoClipboard.data, specialToProto, shorter, compressor.decompress_compress]
  · simp [ProtoClipboard.data, specialToProto, shorter]

/-- A size of an image that fits into the 32 bits of a message, with its sign. -/
def Fits (size : BitVec 64) : Prop :=
  size.toNat < 2 ^ 31 ∨ 2 ^ 64 - 2 ^ 31 ≤ size.toNat

/-- An item that the messages can carry. -/
def Carried : ClipboardData → Prop
  | .image (.rgba width height _) => Fits width ∧ Fits height
  | .special name bytes => compressor.Shortens bytes ∨ bytes = utf8 name
  | .other => False
  | _ => True

/-- A size goes through the 32 bits of a message and back exactly if it fits. -/
theorem signExtend_setWidth_eq_iff (size : BitVec 64) :
    (size.setWidth 32).signExtend 64 = size ↔ Fits size := by
  have number : ((size.setWidth 32).signExtend 64).toNat =
      size.toNat % 2 ^ 32 +
        if 2 ^ 31 ≤ size.toNat % 2 ^ 32 then 2 ^ 64 - 2 ^ 32 else 0 := by
    have small : size.toNat % 2 ^ 32 < 2 ^ 64 := by omega
    simp [BitVec.toNat_signExtend, BitVec.msb_eq_decide, BitVec.toNat_setWidth]
    omega
  have bound := size.isLt
  rw [← BitVec.toNat_inj, number, Fits]
  split <;> omega

@[simp] theorem enumValue_packed (bytes : Bytes) (format : ClipboardFormat) :
    enumValue (packed compressor bytes format).format = some format :=
  enumValue_value format

@[simp] theorem enumValue_specialToProto (bytes : Bytes) (name : List Char) :
    enumValue (specialToProto compressor bytes name).format = some .special :=
  enumValue_value .special

/-- What the other side reads of an item. -/
def received : ClipboardData → Option ClipboardData
  | .image (.rgba width height bytes) =>
      some (.image (.rgba ((width.setWidth 32).signExtend 64)
        ((height.setWidth 32).signExtend 64) bytes))
  | .special name bytes =>
      some (.special name (if compressor.Shortens bytes then bytes else utf8 name))
  | .other => none
  | item => some item

theorem fromClipboard_clipboardDataToProto (item : ClipboardData) :
    (clipboardDataToProto compressor item).bind (fromClipboard compressor) =
      received compressor item := by
  cases item with
  | text text => simp [clipboardDataToProto, plainToProto, fromClipboard, received]
  | rtf text => simp [clipboardDataToProto, plainToProto, fromClipboard, received]
  | html text => simp [clipboardDataToProto, plainToProto, fromClipboard, received]
  | image image =>
      cases image with
      | rgba width height bytes =>
          have data : ({ packed compressor bytes .imageRgba with
              width := width.setWidth 32, height := height.setWidth 32 } :
              ProtoClipboard).data compressor = bytes :=
            data_packed compressor bytes .imageRgba
          simp [clipboardDataToProto, imageToProto, fromClipboard, received, ImageData.bytes, data]
      | png bytes =>
          simp [clipboardDataToProto, imageToProto, fromClipboard, received, ProtoClipboard.data]
      | svg text =>
          simp [clipboardDataToProto, imageToProto, fromClipboard, received, ImageData.bytes]
  | special name bytes =>
      simp only [clipboardDataToProto, Option.bind_some, fromClipboard, enumValue_specialToProto,
        data_specialToProto, received]
      rfl
  | other => rfl

theorem received_eq_some_iff (item : ClipboardData) :
    received compressor item = some item ↔ Carried compressor item := by
  cases item with
  | image image =>
      cases image with
      | rgba width height bytes =>
          simp [received, Carried, signExtend_setWidth_eq_iff]
      | png bytes => simp [received, Carried]
      | svg text => simp [received, Carried]
  | special name bytes =>
      by_cases shorter : compressor.Shortens bytes
      · simp [received, Carried, shorter]
      · simp [received, Carried, shorter, eq_comm]
  | _ => simp [received, Carried]

/-- Filtering gives a list back exactly if it keeps every element as it is. -/
theorem filterMap_eq_self_iff {Item : Type} {read : Item → Option Item} {items : List Item} :
    items.filterMap read = items ↔ ∀ item ∈ items, read item = some item := by
  induction items with
  | nil => simp
  | cons item items inductionHypothesis =>
      cases reads : read item with
      | none =>
          have shorter := List.length_filterMap_le read items
          have differs : items.filterMap read ≠ item :: items := by
            intro same
            rw [same, List.length_cons] at shorter
            omega
          simp [reads, differs]
      | some got =>
          simp [reads, inductionHypothesis]

/-- Items come back in their order exactly if each of them can be carried. -/
theorem fromMultiClipboards_createMultiClipboards (items : List ClipboardData) :
    fromMultiClipboards compressor (createMultiClipboards compressor items) = items ↔
      ∀ item ∈ items, Carried compressor item := by
  rw [fromMultiClipboards, createMultiClipboards, List.filterMap_filterMap]
  simp only [fromClipboard_clipboardDataToProto, filterMap_eq_self_iff, received_eq_some_iff]

/-- Compression that only puts a frame of four bytes around the contents. -/
def framed : Compressor where
  compress bytes := [0x28, 0xB5, 0x2F, 0xFD] ++ bytes
  decompress bytes := bytes.drop 4
  decompress_compress _ := rfl

/-- A special item that compressing makes longer comes back with its name for contents. -/
theorem special_read_as_name :
    fromMultiClipboards framed (createMultiClipboards framed [.special ['a'] [1, 2, 3]]) =
        [.special ['a'] [97]] ∧
      fromMultiClipboards framed (createMultiClipboards framed [.special ['a'] [1, 2, 3]]) ≠
        [.special ['a'] [1, 2, 3]] := by
  decide

end Multi
end Clipboard
end OneDesk
