import TrustedServices.Lib.Window
import TrustedServices.Media.Volume

/- Files of bytes with a position: what a volume is for. -/
namespace Volumes

open Lib

inductive SeekMode
  | set
  | cur
  | other
  deriving DecidableEq, Repr

/-- Data whose length is a `size_t`. -/
structure Buffer where
  bytes : Bytes
  fits : bytes.length < 2 ^ 64

inductive Request
  | openVolume
  | seek (mode : SeekMode) (offset : BitVec 64)
  | read (length : BitVec 64)
  | write (data : Buffer)
  | close

/-- What a request returns. A request to a volume that is not open is not made. -/
inductive Answer
  | unopened
  | done
  | failed (error : IoError)
  | data (bytes : Bytes)
  | count (bytes : BitVec 64)
  deriving DecidableEq, Repr

@[ext] structure ByteFile where
  size : Nat
  cells : Nat → UInt8
  position : Nat
  inside : position ≤ size
  isOpen : Bool

namespace ByteFile

section

variable (file : ByteFile)

def room (length : Nat) : Nat := min length (file.size - file.position)

theorem position_room_le (length : Nat) : file.position + file.room length ≤ file.size := by
  have inside := file.inside
  unfold room
  omega

def moved (position : Nat) (inside : position ≤ file.size) : ByteFile :=
  { file with position, inside }

def rewound : ByteFile := file.moved 0 (Nat.zero_le _)

def behind (length : Nat) : ByteFile :=
  file.moved (file.position + file.room length) (file.position_room_le length)

def written (data : Bytes) : ByteFile :=
  { file.behind data.length with
    cells := overlay file.cells file.position (data.take (file.room data.length)) }

end

variable {file : ByteFile}

section

variable {first length : Nat} (fits : first ≤ file.room length)

include fits

theorem room_of_le : file.room first = first := by
  unfold room at *
  omega

theorem room_behind : (file.behind first).room (length - first) = file.room length - first := by
  unfold room at fits
  simp only [behind, moved, room]
  omega

end

theorem room_written {data : Bytes} {length : Nat} :
    (file.written data).room length = (file.behind data.length).room length := rfl

theorem behind_nothing {length : Nat} (nothing : file.room length = 0) :
    file.behind length = file := by
  ext
  · rfl
  · rfl
  · simp only [behind, moved, nothing, Nat.add_zero]
  · rfl

theorem written_nothing {data : Bytes} (nothing : file.room data.length = 0) :
    file.written data = file := by
  ext
  · rfl
  · simp only [written, nothing, List.take_zero, overlay_nil]
  · simp only [written, behind, moved, nothing, Nat.add_zero]
  · rfl

theorem behind_behind {first length : Nat} (fits : first ≤ file.room length) :
    (file.behind first).behind (length - first) = file.behind length := by
  unfold room at fits
  ext
  · rfl
  · rfl
  · simp only [behind, moved, room]
    omega
  · rfl

theorem written_written {front back : Bytes}
    (fits : front.length ≤ file.room (front ++ back).length) :
    (file.written front).written back = file.written (front ++ back) := by
  have whole := room_of_le fits
  unfold room at fits
  have rest : front.length + (file.written front).room back.length =
      file.room (front ++ back).length := by
    simp only [written, behind, moved, room, List.length_append]
    omega
  apply ByteFile.ext
  · rfl
  · funext address
    show overlay (overlay file.cells file.position (front.take (file.room front.length)))
      (file.position + file.room front.length) (back.take ((file.written front).room back.length))
        address = overlay file.cells file.position
          ((front ++ back).take (file.room (front ++ back).length)) address
    rw [← rest, whole, List.take_length, overlay_overlay, List.take_length_add_append]
  · show file.position + file.room front.length + (file.written front).room back.length =
      file.position + file.room (front ++ back).length
    omega
  · rfl

/-- Where a seek goes, with offsets of 64 bits. -/
def target (file : ByteFile) (mode : SeekMode) (offset : BitVec 64) : Option Int :=
  match mode with
  | .set => some offset.toInt
  | .cur => some (file.position + offset.toInt)
  | .other => none

/-- What a file does on a request. An open or a close fails only if it is `refused`. Only an empty
file refuses a transfer, and a file below 2^63 bytes only refuses a seek to a target that is not in
it. -/
inductive Step (refused : Bool) (file : ByteFile) : Request → Answer → ByteFile → Prop
  | unopened {request : Request} (closed : file.isOpen = false) (other : request ≠ .openVolume) :
      Step refused file request .unopened file
  | opened (granted : refused = false) :
      Step refused file .openVolume .done { file.rewound with isOpen := true }
  | openRefused (refusal : refused = true) : Step refused file .openVolume (.failed .perm) file
  | openRefusedRewound (refusal : refused = true) :
      Step refused file .openVolume (.failed .perm) file.rewound
  | seek {mode : SeekMode} {offset : BitVec 64} {target : Int} {position : Nat}
      (isOpen : file.isOpen = true) (aims : file.target mode offset = some target)
      (inside : position ≤ file.size) (reaches : (position : Int) = target % 2 ^ 64) :
      Step refused file (.seek mode offset) .done (file.moved position inside)
  | seekRefused {mode : SeekMode} {offset : BitVec 64} (isOpen : file.isOpen = true)
      (outside : ∀ target, file.target mode offset = some target → file.size < 2 ^ 63 →
        target < 0 ∨ file.size < target) :
      Step refused file (.seek mode offset) (.failed .inval) file
  | read {length : BitVec 64} (isOpen : file.isOpen = true) :
      Step refused file (.read length)
        (.data (window file.cells file.position (file.room length.toNat)))
        (file.behind length.toNat)
  | readEmpty {length : BitVec 64} (isOpen : file.isOpen = true) (empty : file.size = 0) :
      Step refused file (.read length) (.failed .io) file
  | write {data : Buffer} (isOpen : file.isOpen = true) :
      Step refused file (.write data) (.count (BitVec.ofNat 64 (file.room data.bytes.length)))
        (file.written data.bytes)
  | writeEmpty {data : Buffer} (isOpen : file.isOpen = true) (empty : file.size = 0) :
      Step refused file (.write data) (.failed .io) file
  | closed (isOpen : file.isOpen = true) (granted : refused = false) :
      Step refused file .close .done { file.rewound with isOpen := false }
  | closeRefused (isOpen : file.isOpen = true) (refusal : refused = true) :
      Step refused file .close (.failed .nxio) { file with isOpen := false }

/-- The answers of a file to a list of requests, of which some are refused, and the file behind
them. -/
inductive Run : ByteFile → List (Request × Bool) → List Answer → ByteFile → Prop
  | nil {file : ByteFile} : Run file [] [] file
  | cons {file next last : ByteFile} {request : Request} {refused : Bool}
      {requests : List (Request × Bool)} {answer : Answer} {answers : List Answer}
      (first : Step refused file request answer next) (rest : Run next requests answers last) :
      Run file ((request, refused) :: requests) (answer :: answers) last

end ByteFile

end Volumes
