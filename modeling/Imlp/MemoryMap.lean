import Imlp.Codec

/-!
# The simulator's memory map

Rendering of `include/imlp/memory_map.hpp` and `src/memory_map.cpp`. The array
`std::array<std::byte, 4096>` is a function on its 4096 indices, so there is no state with
another number of bytes. The per-byte access loops return one fixed status as soon as a
byte is refused and are rendered as a search over the offsets.
-/

namespace Imlp

/-- `memory_capacity` (`memory_map.hpp:21`). -/
def memoryCapacity : Nat := 4096

/-- `enum class Access` (`memory_map.hpp:24`). -/
inductive Access where
  | readOnly
  | readWrite
  | denied
  deriving DecidableEq, Repr

/-- `struct MemoryResult` (`memory_map.hpp:27-32`). -/
structure MemoryResult where
  status : Status := Status.ok
  data : List Byte := []
  deriving DecidableEq, Repr

/-- `MemoryResult::operator bool` (`memory_map.hpp:31`). -/
def MemoryResult.toBool (result : MemoryResult) : Bool := result.status = .ok

/-- `class MemoryMap` (`memory_map.hpp:36-51`). -/
@[ext]
structure MemoryMap where
  bytes : Fin memoryCapacity → Byte

/-- `range_fits` (`memory_map.cpp:18-22`). -/
def rangeFits (address : BitVec 32) (length : Nat) : Bool :=
  if length = 0 ∨ length > memoryCapacity then false
  else
    let start := address.toNat
    start < memoryCapacity && length ≤ memoryCapacity - start

/-- The text stored at the start of the memory (`memory_map.cpp:27`). -/
def identity : List Byte :=
  "IMLP/1 synthetic memory simulator".toList.map (fun char => BitVec.ofNat 8 char.toNat)

namespace MemoryMap

/-- `MemoryMap::MemoryMap` (`memory_map.cpp:26-32`): the identity text, the version byte and
    zeros elsewhere. -/
def initial : MemoryMap where
  bytes index :=
    if index.val = 0x40 then protocolVersion
    else if index.val < identity.length then byteAt identity index.val
    else 0#8

/-- `bytes_[index]`. -/
def byte (memory : MemoryMap) (index : Nat) : Byte :=
  if h : index < memoryCapacity then memory.bytes ⟨index, h⟩ else 0#8

/-- `MemoryMap::access_for` (`memory_map.cpp:63-67`). -/
def accessFor (address : BitVec 32) : Access :=
  if address ≤ 0x00FF#32 then .readOnly
  else if address ≤ 0x07FF#32 then .readWrite
  else .denied

/-- `MemoryMap::read` (`memory_map.cpp:34-47`). -/
def read (memory : MemoryMap) (address : BitVec 32) (length : Nat) : MemoryResult :=
  if !rangeFits address length || length > maximumPayloadSize then { status := .outOfRange }
  else
    let start := address.toNat
    if (List.range length).any
        (fun offset => accessFor (BitVec.ofNat 32 (start + offset)) = .denied) then
      { status := .accessDenied }
    else
      { status := .ok, data := (List.range' start length).map memory.byte }

/-- `std::copy` of `data` into the array from index `start` (`memory_map.cpp:59`). -/
def copy (memory : MemoryMap) (start : Nat) (data : List Byte) : MemoryMap where
  bytes index :=
    if start ≤ index.val ∧ index.val < start + data.length then byteAt data (index.val - start)
    else memory.bytes index

/-- `MemoryMap::write` (`memory_map.cpp:49-61`). -/
def write (memory : MemoryMap) (address : BitVec 32) (data : List Byte) : Status × MemoryMap :=
  if !rangeFits address data.length || data.length > maximumPayloadSize then
    (.outOfRange, memory)
  else
    let start := address.toNat
    if (List.range data.length).any
        (fun offset => accessFor (BitVec.ofNat 32 (start + offset)) ≠ .readWrite) then
      (.accessDenied, memory)
    else (.ok, memory.copy start data)

end MemoryMap

end Imlp
